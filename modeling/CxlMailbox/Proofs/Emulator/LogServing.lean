/-
# CxlMailbox.Proofs.Emulator.LogServing — the Command Effects Log of an emulated device

The limit on delivered bytes is the one fault that a reader of logs copes with: a device that has it
delivers the front of each response (`EmulatedDevice.limited_prefix`), and with a limit of at least
one byte it delivers something (`limited_ne_nil`).  So it keeps the contract of a device with a log
(`Emulator.servesLog`).

`log_reassembled` says what is read under that contract, over any backend, and what is read of the
effects log of an emulated device.
-/
import CxlMailbox.Proofs.Emulator.ReplySize
import CxlMailbox.Proofs.Emulator.Serving
import CxlMailbox.Proofs.Inquiry.Reassembly
import CxlMailbox.Proofs.Payload.LogList

namespace CxlMailbox

set_option autoImplicit false

open Effect Session

/-! ## Limited devices -/

namespace EmulatedDevice

/-- The device has its node and a limit on what it delivers, and no status is forced on it. -/
structure Limited (d : EmulatedDevice) (config : DeviceConfig) (limit? : Option UInt32) :
    Prop where
  unforced : d.forcedStatus = none
  limit : d.outputLimit = limit?
  node : d.nodeMinor = config.minor

variable {d d' : EmulatedDevice} {config : DeviceConfig} {limit? : Option UInt32}

theorem SameBut.limited {part? : Option DevicePart} (same : d.SameBut part? d')
    (limited : d.Limited config limit?) : d'.Limited config limit? :=
  ⟨same.forcedStatus.trans limited.unforced, same.outputLimit.trans limited.limit,
    same.nodeMinor.trans limited.node⟩

/-- Some of a response is delivered if the limit allows a byte, -/
theorem limited_ne_nil {response : Bytes} (some_ : ∀ limit ∈ d.outputLimit, 1 ≤ limit.toNat)
    (nonempty : response ≠ []) : d.limited response ≠ [] := by
  unfold EmulatedDevice.limited
  split
  next limit at_ =>
    have byte := some_ limit at_
    rw [ne_eq, List.take_eq_nil_iff, not_or]
    exact ⟨by omega, nonempty⟩
  next => exact nonempty

/-- and all of it if the limit allows that. -/
theorem limited_whole {response : Bytes}
    (fits : ∀ limit ∈ d.outputLimit, response.length ≤ limit.toNat) :
    d.limited response = response := by
  unfold EmulatedDevice.limited
  split
  next limit at_ => exact List.take_of_length_le (fits limit at_)
  next => rfl

/-- A response that has room in the output is delivered as far as the limit goes. -/
theorem deliver_answers (unforced : d.forcedStatus = none) {request : SendRequest}
    {response : Bytes}
    (executes : d.execute request.id request.rawOpcode request.input = d.answers response)
    (room : response.length ≤ request.output.length) :
    ∃ executed, d.deliver request =
      ⟨⟨UInt32.ofNat (d.limited response).length, 0⟩, d.limited response, d, executed⟩ := by
  simp only [deliver, unforced, executes, answers, Nat.not_lt.mpr room, if_false]
  exact ⟨_, rfl⟩

/-! ## What it says of its logs -/

/-- The list of the logs of an emulated device. -/
def logs : List SupportedLog := [⟨.effectsLog, UInt32.ofNat (effects.length * 4)⟩]

theorem execute_getSupportedLogs (d : EmulatedDevice) (opcode : UInt16) (input : Bytes) :
    d.execute CommandId.getSupportedLogs opcode input =
      d.answers (SupportedLog.encodeList logs) := by
  rw [execute]
  repeat rw [if_neg (by decide)]
  rw [if_pos rfl, logs]

theorem execute_getLog (d : EmulatedDevice) (opcode : UInt16) {request : LogRequest}
    (same : request.uuid = .effectsLog) :
    d.execute CommandId.getLog opcode request.encode =
      d.answers (Bytes.slice effectsBytes request.offset.toNat request.length.toNat) := by
  have decoded : LogRequest.decode request.encode = .ok request :=
    LogRequest.packsExactly.decode_encode request
  rw [execute]
  repeat rw [if_neg (by decide)]
  rw [if_pos rfl, readLog, decoded]
  exact if_pos same

end EmulatedDevice

/-! ## The emulator -/

namespace Emulator

variable {config : DeviceConfig} {limit? : Option UInt32}

/-- The emulator answers for a configuration with a device that has the limit. -/
def Delivers (config : DeviceConfig) (limit? : Option UInt32) (e : Emulator) : Prop :=
  ∃ d, e.Hosts config d ∧ d.Limited config limit?

theorem delivers_serves (config : DeviceConfig) (limit? : Option UInt32) :
    backend.Serves config.info config.catalog (Delivers config limit?) :=
  serves_where (fun _ limited => limited.node) fun _ _ limited => { limited with }

/-- A command with an output of any size is answered with its response, as far as the limit goes. -/
theorem send_limited {e : Emulator} (delivers : e.Delivers config limit?) (files : FileTree)
    (request : SendRequest) {sizeIn : Int32}
    (offers : OffersVariable config.catalog request.id sizeIn)
    (known : request.id ≠ CommandId.raw) (sized : (request.input.length : Int) = sizeIn.toInt)
    {response : Bytes} (room : response.length ≤ request.output.length)
    (executes : ∀ d : EmulatedDevice,
      d.execute request.id request.rawOpcode request.input = d.answers response) :
    ∃ (d : EmulatedDevice) (e' : Emulator) (log : List LogLine), d.outputLimit = limit? ∧
      e'.Delivers config limit? ∧ backend.send files config.info request e =
        { verdict := .ok ⟨UInt32.ofNat (d.limited response).length, 0⟩
          written := d.limited response, device := e', log } := by
  obtain ⟨d, hosts, limited⟩ := delivers
  obtain ⟨entry, first, declared, variable_⟩ := offers
  have passes : d.driverFault? request = none := by
    rw [EmulatedDevice.driverFault?, hosts.configured, DeviceConfig.find?_catalog first]
    simp only [declared, sized, known]
    rw [if_neg (by omega), if_neg (by omega), if_neg (fun raw => raw.1)]
  have called : d.called.Limited config limit? := (d.sameBut_called none).limited limited
  obtain ⟨executed, delivered⟩ :=
    EmulatedDevice.deliver_answers called.unforced (executes d.called) room
  obtain ⟨log, carried⟩ := d.send_carried config.info passes
  rw [delivered] at carried
  refine ⟨d.called, _, log, called.limit, ⟨d.called, hosts.put hosts.configured, called⟩, ?_⟩
  rw [send_reached hosts.found (hosts.hasNode_iff.mpr limited.node), carried]
  rfl

/-- A limit is set on a device that is switched on. -/
theorem delivers_limitOutput {configs : List DeviceConfig}
    (first : configs.find? (fun other => other.id == config.id) = some config)
    (limit? : Option UInt32) :
    ((ofConfigs configs).limitOutput config.id limit?).Delivers config limit? := by
  have hosts : (ofConfigs configs).Hosts config (.powerOn config) := .of_powerOn first rfl
  let d : EmulatedDevice := { EmulatedDevice.powerOn config with outputLimit := limit? }
  have found : ((ofConfigs configs).limitOutput config.id limit?).device? config.id = some d :=
    find?_updateFirst hosts.found (by simp [EmulatedDevice.powerOn])
  exact ⟨d, ⟨found, rfl⟩, rfl, rfl, rfl⟩

/-- With a limit of at least one byte, or none, an emulated device keeps the contract of a device
with a log. -/
theorem servesLog (offers : OffersVariable config.catalog CommandId.getLog 24)
    (some_ : ∀ limit ∈ limit?, 1 ≤ limit.toNat) :
    backend.ServesLog config.info config.catalog .effectsLog EmulatedDevice.effectsBytes
      (Delivers config limit?) where
  toServes := delivers_serves config limit?
  offers := offers
  answers := by
    intro files e request delivers same asked reply
    have room : asked.length ≤ request.sent.output.length := by
      rw [request.length_sent_output]
      exact Bytes.length_slice_le ..
    obtain ⟨d, e', log, limit, still, sent⟩ := send_limited delivers files request.sent offers
      (show CommandId.getLog ≠ CommandId.raw by decide) (congrArg Int.ofNat request.length_encode)
      room fun d => d.execute_getLog 0 same
    have came : reply = _ := sent
    rw [came]
    exact ⟨still, d.limited asked, d.limited_prefix asked,
      EmulatedDevice.limited_ne_nil (limit ▸ some_), rfl, List.prefix_rfl⟩

/-- With room for it, the list of logs is read. -/
theorem supportedLogs_limited (listed : OffersVariable config.catalog CommandId.getSupportedLogs 0)
    (room : 28 ≤ config.payloadMax.toNat) (some_ : ∀ limit ∈ limit?, 28 ≤ limit.toNat)
    {world : World Emulator} (delivers : world.device.Delivers config limit?) :
    ∃ t, Inquiry.supportedLogs backend config.info world = (.ok EmulatedDevice.logs, t) ∧
      t.device.Delivers config limit? := by
  let response := SupportedLog.encodeList EmulatedDevice.logs
  have length : response.length = 28 := SupportedLog.length_encodeList _
  have decoded : SupportedLog.decodeList response = .ok EmulatedDevice.logs :=
    (SupportedLog.decodeList_encodeList_eq_self _).mpr (by decide)
  rw [← decoded]
  refine Inquiry.get_served (delivers_serves config limit?) listed ?_ SupportedLog.decodeList
    world delivers
  intro files e delivers request reply
  have enough : response.length ≤ request.output.length := by
    rw [length]
    exact Nat.le_trans room (Nat.le_of_eq (Bytes.length_zeros _).symm)
  obtain ⟨d, e', log, limit, still, sent⟩ := send_limited delivers files request listed
    (show CommandId.getSupportedLogs ≠ CommandId.raw by decide) rfl enough
    fun d => d.execute_getSupportedLogs 0 []
  have whole : d.limited response = response :=
    EmulatedDevice.limited_whole (by rw [limit, length]; exact some_)
  have came : reply = _ := sent
  rw [came, whole]
  exact ⟨still, Exchange.result_success _ List.prefix_rfl enough (by rw [length]; decide)⟩

/-- Then all entries of the effects log are, in order. -/
theorem effectsLog_limited (listed : OffersVariable config.catalog CommandId.getSupportedLogs 0)
    (offers : OffersVariable config.catalog CommandId.getLog 24)
    (room : 28 ≤ config.payloadMax.toNat) (some_ : ∀ limit ∈ limit?, 28 ≤ limit.toNat)
    {world : World Emulator} (delivers : world.device.Delivers config limit?) :
    (Inquiry.effectsLog backend config.info world).1 = .ok EmulatedDevice.effects := by
  obtain ⟨t, fetched, delivers'⟩ := supportedLogs_limited listed room some_ delivers
  let size := UInt32.ofNat (EmulatedDevice.effects.length * 4)
  have looked : EmulatedDevice.logs.find? SupportedLog.isEffectsLog =
      some ⟨.effectsLog, size⟩ := rfl
  obtain ⟨u, read, -⟩ := Inquiry.readLog_served
    (servesLog offers fun limit at_ => Nat.le_trans (by decide) (some_ limit at_))
    (Nat.le_trans (by decide) room) 0 size (by decide) delivers'
  have whole : Bytes.slice EmulatedDevice.effectsBytes 0 size.toNat =
      EmulatedDevice.effectsBytes := List.take_of_length_le (by decide)
  rw [Inquiry.effectsLog, bind_ok fetched]
  simp only [looked]
  rw [bind_ok read]
  exact congrArg Except.ok
    ((congrArg _ whole).trans (EffectsEntry.decodeLog_encodeLog EmulatedDevice.effects))

end Emulator

/-- **A log is read whole, however it is cut.**  Over every backend that answers with fronts of what
it is asked for, the bytes of the range that the log has are read.  With a limit of at least one
byte, or none, emulated devices are such backends for their effects log, and all of its entries are
read if the list of logs has room. -/
theorem log_reassembled :
    (∀ {δ : Type} (backend : Backend δ) (info : DeviceInfo) (catalog : List CatalogEntry)
        (uuid : Uuid) (log : Bytes) (held : δ → Prop),
      backend.ServesLog info catalog uuid log held → 24 ≤ info.payloadMax.toNat →
      ∀ offset length : UInt32, offset.toNat + length.toNat ≤ UInt32.size →
      ∀ world : World δ, held world.device →
        (Inquiry.readLog backend info uuid offset length world).1 =
          .ok (Bytes.slice log offset.toNat length.toNat)) ∧
    ∀ (config : DeviceConfig) (limit? : Option UInt32),
      OffersVariable config.catalog CommandId.getLog 24 →
      ((∀ limit ∈ limit?, 1 ≤ limit.toNat) →
        Emulator.backend.ServesLog config.info config.catalog .effectsLog
          EmulatedDevice.effectsBytes (Emulator.Delivers config limit?)) ∧
      (OffersVariable config.catalog CommandId.getSupportedLogs 0 →
        28 ≤ config.payloadMax.toNat → (∀ limit ∈ limit?, 28 ≤ limit.toNat) →
        ∀ world : World Emulator, world.device.Delivers config limit? →
          (Inquiry.effectsLog Emulator.backend config.info world).1 =
            .ok EmulatedDevice.effects) := by
  refine ⟨?_, fun config limit? offers => ⟨Emulator.servesLog offers, ?_⟩⟩
  · intro δ backend info catalog uuid log held serves room offset length fits world here
    obtain ⟨t, read, -⟩ := Inquiry.readLog_served serves room offset length fits here
    rw [read]
  · intro listed room some_ world delivers
    exact Emulator.effectsLog_limited listed offers room some_ delivers

/-- A device delivers five bytes at a time, another one 28: forty bytes from the middle of the log,
and all its entries, come as they are. -/
theorem log_reassembled_limited :
    let config : DeviceConfig := { payloadMax := 28 }
    let world (limit : UInt32) : World Emulator :=
      { device := (Emulator.ofConfigs [config]).limitOutput config.id (some limit) }
    (Inquiry.readLog Emulator.backend config.info .effectsLog 3 40 (world 5)).1 =
        .ok (Bytes.slice EmulatedDevice.effectsBytes 3 40) ∧
      (Inquiry.effectsLog Emulator.backend config.info (world 28)).1 =
        .ok EmulatedDevice.effects := by
  intro config world
  have pieces : OffersVariable config.catalog CommandId.getLog 24 := ⟨_, rfl, rfl, by decide⟩
  have listed : OffersVariable config.catalog CommandId.getSupportedLogs 0 :=
    ⟨_, rfl, rfl, by decide⟩
  have delivers (limit : UInt32) : (world limit).device.Delivers config (some limit) :=
    Emulator.delivers_limitOutput rfl (some limit)
  obtain ⟨reads, emulated⟩ := log_reassembled
  have serves := (emulated config (some 5) pieces).1 (by rintro _ ⟨⟩; decide)
  refine ⟨?_, ?_⟩
  · exact reads Emulator.backend config.info _ _ _ _ serves (by decide) 3 40 (by decide) (world 5)
      (delivers 5)
  · exact (emulated config (some 28) pieces).2 listed (by decide) (by rintro _ ⟨⟩; decide)
      (world 28) (delivers 28)

end CxlMailbox
