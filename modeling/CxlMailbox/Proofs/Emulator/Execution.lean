/-
# CxlMailbox.Proofs.Emulator.Execution — typed commands on a device without faults

A device without injected faults delivers what its commands come to.  With the standard catalog, and
payloads of 67 bytes, a typed command is then the execution of one command of the device:

* `conclude_executes`: a command that the driver lets through ends as its execution does, and leaves
  the device that it leaves;
* `get_reads` and `getRaw_reads`: a command that reads answers with the decoding of the response;
* `setAlertConfig_writes` and `setRaw_writes`: a command that writes answers with its status.

What a command executes is looked at on any device that is the same up to its counters, since the
making of the command has counted by then.
-/
import CxlMailbox.Proofs.Emulator.Calls

namespace CxlMailbox

set_option autoImplicit false

open Effect

/-! ## The send -/

/-- A response that fits is reported as a whole. -/
theorem SendRequest.reply_whole {request : SendRequest} {response : Bytes} (word : UInt32)
    (fits : response.length ≤ request.output.length) (small : response.length < UInt32.size) :
    request.reply ⟨UInt32.ofNat response.length, word⟩ response = response :=
  reply_prefix word List.prefix_rfl fits small

variable {α : Type} {config : DeviceConfig} {part? : Option DevicePart} {d d' : EmulatedDevice}

namespace Emulator

/-- The emulator answers for a standard device without faults, which takes payloads of 67 bytes. -/
structure Ready (e : Emulator) (config : DeviceConfig) (d : EmulatedDevice) : Prop
    extends e.Hosts config d where
  intact : d.Intact
  standard : config.catalog = standardCatalog
  room : 67 ≤ config.payloadMax.toNat

namespace Ready

variable {e e' : Emulator}

theorem after (ready : e.Ready config d) (same : d.SameBut part? d')
    (hosts : e'.Hosts config d') : e'.Ready config d' :=
  ⟨hosts, same.intact ready.intact, ready.standard, ready.room⟩

theorem node (ready : e.Ready config d) : d.HasNode config.info :=
  ready.hasNode_iff.mpr (ready.intact.node.trans (congrArg _ ready.configured))

end Ready

variable {s : Session Emulator}

/-- A command that the driver lets through ends as its execution does. -/
theorem conclude_executes (ready : s.world.device.Ready config d)
    (sendable : s.command.Sendable config part?) {effect : EmulatedDevice.Effect}
    (executes : d.called.execute s.command.id s.command.rawOpcode s.command.input.bytes = effect)
    (room : ∀ response ∈ effect.response, response.length ≤ s.command.output.bytes.length) :
    ∃ t : Session Emulator, Session.conclude backend s = (effect.status.completion, t) ∧
      t.world.device.Hosts config effect.device ∧
      t.command = s.command.received
        ⟨UInt32.ofNat (effect.response.getD []).length, effect.status.toWord⟩
        (effect.response.getD []) := by
  obtain ⟨t, sent, received, hosts⟩ := submit_hosted ready.toHosts ready.node sendable.device
    sendable.clear (sendable.passes d ready.configured)
  have called := (d.sameBut_called none).intact ready.intact
  obtain ⟨executed, delivered⟩ : ∃ executed, d.called.deliver s.command.request =
    ⟨_, _, _, executed⟩ := called.deliver executes room
  rw [delivered] at sent received hosts
  obtain ⟨log, ended⟩ := Session.conclude_apply backend s
  have classified : effect.status.Classified :=
    executes ▸ (d.called.execute_lawful s.command.request).classified
  rw [Status.ofWord_toWord classified] at sent
  rw [sent] at ended
  exact ⟨_, ended, hosts, received⟩

end Emulator

/-! ## The making -/

theorem DeviceConfig.find?_offered {id : UInt32} {entry : CatalogEntry}
    (standard : config.catalog = standardCatalog)
    (first : (standardCatalog.find? fun entry => entry.id == id) = some entry) :
    (config.offered.find? fun entry => entry.id == id) = some entry := by
  have whole : config.offered = standardCatalog := by
    rw [offered, standard]
    rfl
  rw [whole, first]

namespace Emulator

variable {world : World Emulator} {id : UInt32} {entry : CatalogEntry}

/-- A small command of the standard catalog is made. -/
theorem prepare_ready (ready : world.device.Ready config d)
    (first : (standardCatalog.find? fun entry => entry.id == id) = some entry)
    (input : entry.sizeIn.toInt ≤ 67) (output : entry.sizeOut.toInt ≤ 67) :
    ∃ (d' : EmulatedDevice) (t : Session Emulator), d.SameBut none d' ∧
      t.world.device.Ready config d' ∧
      Session.prepare backend id ⟨.unvalidated config.info, world⟩ = (.ok (), t) ∧
      t.command.Constructed config.info config.offered id entry := by
  have room : 67 ≤ config.info.payloadMax.toNat := ready.room
  obtain ⟨t, ran, ⟨d', hosts, same⟩, constructed⟩ := Session.prepare_constructed
    (ready.toHosts.serves ready.node) world ⟨d, ready.toHosts, .refl none d⟩
    (DeviceConfig.find?_offered ready.standard first) (by omega) (by omega)
  exact ⟨d', t, same, ready.after same hosts, ran, constructed⟩

/-- A pass-through command is made, with an output of any size that the device's payloads have. -/
theorem prepareRaw_ready (ready : world.device.Ready config d) {opcode : UInt16}
    (nonzero : opcode ≠ 0) {size : Nat} (fits : size ≤ 67) (next : Drive Emulator α) :
    ∃ (d' : EmulatedDevice) (t : Session Emulator), d.SameBut none d' ∧
      t.world.device.Ready config d' ∧
      t.command.Looked config CommandId.raw opcode .passThrough ∧
      t.command.input.bytes = [] ∧ t.command.output.bytes.length = size ∧
      (do
        Session.prepareRaw backend opcode
        Session.setOutput none size
        next : Drive Emulator α) ⟨.unvalidated config.info, world⟩ = next t := by
  have first : (standardCatalog.find? fun entry => entry.id == CommandId.raw) =
      some .passThrough := rfl
  obtain ⟨d', t, same, readied, ran, made⟩ :=
    prepare_ready ready first (by decide) (by decide)
  let c := { t.command with rawOpcode := opcode }
  have opened : Session.prepareRaw backend opcode ⟨.unvalidated config.info, world⟩ =
      (.ok (), t.withCommand c) := by
    rw [Session.prepareRaw_apply backend nonzero, ran]
  have device : c.device = config.info := made.device
  have enough : size ≤ c.device.payloadMax.toNat := by
    rw [device]
    exact Nat.le_trans fits ready.room
  have sized := Session.setOutput_apply none size (t.withCommand c)
  rw [Session.withCommand_command, Command.setOutput_of_le enough (by simp)] at sized
  refine ⟨d', t.withCommand { c with output := .make size none, outSize := size }, same, readied,
    ?_, made.input, ?_, ?_⟩
  · exact (made.looked (DeviceConfig.find?_offered ready.standard first) opcode).replaced _ _ _
  · simp [Payload.length_make]
  · rw [bind_ok opened, bind_ok sized]
    rfl

end Emulator

/-! ## Reading -/

namespace Inquiry

variable {s : Session Emulator} {world : World Emulator}

/-- A command that was executed with a response answers with its decoding. -/
theorem run_reads (ready : s.world.device.Ready config d)
    (sendable : s.command.Sendable config part?) {response : Bytes}
    (executes : d.called.execute s.command.id s.command.rawOpcode s.command.input.bytes =
      d.called.answers response)
    (fits : response.length ≤ s.command.output.bytes.length) (small : response.length ≤ 67)
    {output : Command → Except Error Bytes} (decode : Bytes → Except Error α)
    (named : ∀ receipt written, output (s.command.received receipt written) =
      (s.command.received receipt written).finalResult) :
    ((do
      let _ ← Session.run Emulator.backend []
      decode (← (do output (← Session.current) : Drive Emulator Bytes)) : Drive Emulator α) s).1 =
      decode response := by
  obtain ⟨t, ran, -, received⟩ := Emulator.conclude_executes ready sendable executes
    fun _ answered => by cases answered; exact fits
  have whole : finalReply s.command.request ⟨UInt32.ofNat response.length, 0⟩ response =
      .ok response :=
    congrArg Except.ok (SendRequest.reply_whole 0 fits (Nat.lt_of_le_of_lt small (by decide)))
  have final : output t.command = .ok response := by
    rw [received, named, Command.received_finalResult]
    exact whole
  rw [Session.run_eq, if_pos List.isEmpty_nil, bind_ok ran, decoding_apply, final]
  rfl

/-- A command of the catalog without input answers with the decoding of its response. -/
theorem get_reads (ready : world.device.Ready config d) {id : UInt32} {entry : CatalogEntry}
    (known : id ≠ CommandId.raw)
    (first : (standardCatalog.find? fun entry => entry.id == id) = some entry)
    (input : entry.sizeIn.toInt = 0) (output : entry.sizeOut.toInt ≤ 67) {response : Bytes}
    (reads : ∀ d', d.SameBut none d' → d'.execute id 0 [] = d'.answers response)
    (fits : (response.length : Int) ≤ entry.sizeOut.toInt) (decode : Bytes → Except Error α) :
    ((get Emulator.backend id decode).once config.info world).1 = decode response := by
  obtain ⟨d', t, same, readied, ran, made⟩ :=
    Emulator.prepare_ready ready first (by omega) output
  have looked := made.looked_bare (DeviceConfig.find?_offered ready.standard first)
  have empty : t.command.input.bytes = [] := by
    rw [made.input, input]
    rfl
  have called := same.trans (d'.sameBut_called none)
  rw [Session.once_apply, get, bind_ok ran]
  have sendable : t.command.Sendable config (DevicePart.of id 0) :=
    looked.sendable made.sizes (absurd · known) (.inr rfl)
  refine run_reads readied sendable ?_ ?_ (by omega) decode ?_
  · rw [made.id_eq, made.rawOpcode, empty]
    exact reads _ called
  · have enough := made.sizes.2 (by omega)
    omega
  · intro receipt written
    exact if_neg (not_not_intro made.id_eq)

/-- So does a pass-through command without input. -/
theorem getRaw_reads (ready : world.device.Ready config d) {opcode : UInt16}
    (nonzero : opcode ≠ 0) {size : Nat} (small : size ≤ 67) {response : Bytes}
    (reads : ∀ d', d.SameBut none d' → d'.execute CommandId.raw opcode [] = d'.answers response)
    (fits : response.length ≤ size) (decode : Bytes → Except Error α) :
    ((getRaw Emulator.backend opcode size decode).once config.info world).1 =
      decode response := by
  obtain ⟨d', t, same, readied, looked, empty, sized, ran⟩ :=
    Emulator.prepareRaw_ready ready nonzero small
      (do
        let _ ← Session.run Emulator.backend []
        decode (← Session.rawOutputFor opcode))
  have called := same.trans (d'.sameBut_called none)
  rw [Session.once_apply, getRaw, ran]
  refine run_reads readied (passThrough_sendable looked nonzero (.inr rfl))
    ?_ (by omega) (by omega) decode ?_
  · rw [looked.id_eq, looked.rawOpcode, empty]
    exact reads _ called
  · intro receipt written
    exact if_neg fun other => other.elim (fun differs => differs looked.id_eq) fun differs =>
      differs looked.rawOpcode

/-! ## Writing -/

/-- A command that was executed without a response ends with its status, and leaves the device that
the execution leaves. -/
theorem run_writes (ready : s.world.device.Ready config d) {input : Bytes}
    (nonempty : input.length ≠ 0) (fits : input.length ≤ s.command.device.payloadMax.toNat)
    (sendable : { s.command with input := .owned input }.Sendable config part?)
    {effect : EmulatedDevice.Effect}
    (executes : d.called.execute s.command.id s.command.rawOpcode input = effect)
    (silent : effect.response = none) :
    ∃ t : Session Emulator,
      Session.run Emulator.backend input s = (effect.status.completion, t) ∧
      t.world.device.Hosts config effect.device := by
  have isEmpty : ¬ input.isEmpty = true := fun empty =>
    nonempty (congrArg List.length (List.isEmpty_iff.mp empty))
  have written : overlay input (Bytes.zeros input.length) = input :=
    overlay_of_length_eq (by simp)
  have arranged := Labels.input_arranged input fits (Session.conclude Emulator.backend)
  rw [written] at arranged
  obtain ⟨t, ran, hosts, -⟩ := Emulator.conclude_executes
    (s := s.withCommand { s.command with input := .owned input }) ready sendable executes
    (by simp [silent])
  rw [Session.run_eq, if_neg isEmpty]
  exact ⟨t, arranged.trans ran, hosts⟩

/-- A pass-through command without output ends as its execution does. -/
theorem setRaw_writes (ready : world.device.Ready config d) {opcode : UInt16}
    (nonzero : opcode ≠ 0) {input : Bytes} (nonempty : input.length ≠ 0)
    (small : input.length ≤ 67)
    (silent : ∀ d' : EmulatedDevice, (d'.execute CommandId.raw opcode input).response = none) :
    let ran := (setRaw Emulator.backend opcode input).once config.info world
    ∃ d', d.SameBut none d' ∧ let effect := d'.execute CommandId.raw opcode input
      ran.1 = effect.status.completion ∧ ran.2.device.Hosts config effect.device := by
  obtain ⟨d', t, same, readied, looked, -, -, ran⟩ :=
    Emulator.prepareRaw_ready ready nonzero (Nat.zero_le 67)
      (Session.run Emulator.backend input)
  have fits : input.length ≤ t.command.device.payloadMax.toNat := by
    rw [looked.device]
    exact Nat.le_trans small ready.room
  have executes : d'.called.execute t.command.id t.command.rawOpcode input =
      d'.called.execute CommandId.raw opcode input := by
    rw [looked.id_eq, looked.rawOpcode]
  obtain ⟨u, ended, hosts⟩ := run_writes readied nonempty fits
    (passThrough_sendable (looked.replaced _ _ _) nonzero (.inr rfl)) executes (silent _)
  have whole : setRaw Emulator.backend opcode input ⟨.unvalidated config.info, world⟩ = _ :=
    ran.trans ended
  rw [Session.once_apply, whole]
  exact ⟨d'.called, same.trans (d'.sameBut_called none), rfl, hosts⟩

/-- A request for alerts ends as its execution does. -/
theorem setAlertConfig_writes (ready : world.device.Ready config d) (request : AlertRequest)
    (silent : ∀ d' : EmulatedDevice,
      (d'.execute CommandId.setAlertConfig 0 request.encode).response = none) :
    let ran := setAlertConfig Emulator.backend config.info request world
    ∃ d', d.SameBut none d' ∧
      let effect := d'.execute CommandId.setAlertConfig 0 request.encode
      ran.1 = effect.status.completion ∧ ran.2.device.Hosts config effect.device := by
  have length : request.encode.length = 12 := request.length_encode
  have first : (standardCatalog.find? fun entry => entry.id == CommandId.setAlertConfig) =
      some (.enabled CommandId.setAlertConfig 12 0) := rfl
  obtain ⟨d', t, same, readied, ran, made⟩ :=
    Emulator.prepare_ready ready first (by decide) (by decide)
  have fits : request.encode.length ≤ t.command.device.payloadMax.toNat := by
    rw [made.device]
    exact Nat.le_trans (by omega) ready.room
  have looked := made.looked_bare (DeviceConfig.find?_offered ready.standard first)
  have sendable : { t.command with input := .owned request.encode }.Sendable config
      (some .alert) :=
    (looked.replaced _ _ _).sendable_written (by decide) (.inr rfl) (by decide)
      (.inr (congrArg Int.ofNat length).symm)
  have executes : d'.called.execute t.command.id t.command.rawOpcode request.encode =
      d'.called.execute CommandId.setAlertConfig 0 request.encode := by
    rw [made.id_eq, made.rawOpcode]
  obtain ⟨u, ended, hosts⟩ :=
    run_writes readied (by omega) fits sendable executes (silent _)
  rw [setAlertConfig, Session.once_apply, bind_ok ran, ended]
  exact ⟨d'.called, same.trans (d'.sameBut_called none), rfl, hosts⟩

end Inquiry

end CxlMailbox
