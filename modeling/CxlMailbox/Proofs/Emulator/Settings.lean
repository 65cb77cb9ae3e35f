/-
# CxlMailbox.Proofs.Emulator.Settings — what was set last is read back

The clock, the event policy and the alerts of a device are its settings.  On a device without faults
each call does to them what `Settings.put` says, and the getters read them:

* `DeviceCall.settles`: a call puts its setting, and every other call leaves them alone;
* `Settings.latest_writer`: after a run of calls, each field that calls overwrite is what the latest
  of them wrote, `latest?`;
* `timestamp_reads`, `eventPolicy_reads` and `alertConfig_reads`: a getter answers with the setting.

An alert is a field of its own: a request writes the alerts that it is about, if it is accepted.
`settings_read_back` says so of every run since power-on.
-/
import CxlMailbox.Proofs.Emulator.Execution
import CxlMailbox.Proofs.Payload.Formats
import Mathlib.Data.List.Induction

namespace CxlMailbox

set_option autoImplicit false

open Effect

/-! ## Settings -/

/-- What can be set on a device, and read back. -/
structure Settings where
  timestamp : UInt64
  eventPolicy : EventPolicy
  alert : AlertConfig
  deriving DecidableEq, Repr

def EmulatedDevice.settings (d : EmulatedDevice) : Settings :=
  ⟨d.timestamp, d.eventPolicy, d.alert⟩

/-- What a call does to the settings: a request for alerts is refused if it is about alerts that
cannot be programmed. -/
def Settings.put (s : Settings) : DeviceCall → Settings
  | .set (.setTimestamp time) => { s with timestamp := time }
  | .set (.setEventPolicy policy) => { s with eventPolicy := policy }
  | .set (.setAlertConfig request) =>
      if covers s.alert.programmableAlerts request.validActions then
        { s with alert := s.alert.apply request }
      else s
  | _ => s

/-! ### The latest writer -/

/-- The latest value that calls write. -/
def latest? {β : Type} (written : DeviceCall → Option β) (calls : List DeviceCall) : Option β :=
  (calls.filterMap written).getLast?

theorem latest?_concat {β : Type} (written : DeviceCall → Option β) (calls : List DeviceCall)
    (call : DeviceCall) :
    latest? written (calls ++ [call]) = (written call).or (latest? written calls) := by
  rw [latest?, latest?, List.filterMap_append, List.getLast?_append]
  cases wrote : written call <;> simp [wrote]

/-! ### What a call writes -/

namespace DeviceCall

/-- The time that a call sets the clock to. -/
def timestamp? : DeviceCall → Option UInt64
  | set (.setTimestamp time) => some time
  | _ => none

/-- The event policy that a call sets. -/
def eventPolicy? : DeviceCall → Option EventPolicy
  | set (.setEventPolicy policy) => some policy
  | _ => none

/-- The setting that a call gives an alert: the request has to be accepted, and about the alert. -/
def alertSetting? (programmable : UInt8) (alert : Alert) : DeviceCall → Option AlertSetting
  | set (.setAlertConfig request) =>
      if covers programmable request.validActions then request.setting? alert else none
  | _ => none

end DeviceCall

namespace Settings

variable (s : Settings) (call : DeviceCall)

theorem put_timestamp : (s.put call).timestamp = call.timestamp?.getD s.timestamp := by
  fun_cases put <;> simp_all [DeviceCall.timestamp?]

theorem put_eventPolicy : (s.put call).eventPolicy = call.eventPolicy?.getD s.eventPolicy := by
  fun_cases put <;> simp_all [DeviceCall.eventPolicy?]

theorem put_limits : (s.put call).alert.limits = s.alert.limits := by
  fun_cases put
  case case3 request accepted => exact s.alert.apply_limits request
  all_goals rfl

theorem put_alertSetting (alert : Alert) :
    (s.put call).alert.setting alert =
      (call.alertSetting? s.alert.programmableAlerts alert).getD (s.alert.setting alert) := by
  fun_cases put
  case case3 request accepted =>
    simp only [DeviceCall.alertSetting?, accepted, if_true]
    exact s.alert.apply_setting request alert
  all_goals simp_all [DeviceCall.alertSetting?]

/-! ### Runs -/

/-- A field that every call overwrites or leaves alone is what the latest call wrote; `P` is what
all calls keep. -/
theorem latest_writer {β : Type} {P : Settings → Prop} (written : DeviceCall → Option β)
    (field : Settings → β) (kept : ∀ s call, P s → P (s.put call))
    (overwrites : ∀ s call, P s → field (s.put call) = (written call).getD (field s))
    {s : Settings} (holds : P s) (calls : List DeviceCall) :
    P (calls.foldl put s) ∧
      field (calls.foldl put s) = (latest? written calls).getD (field s) := by
  induction calls using List.reverseRecOn with
  | nil => exact ⟨holds, rfl⟩
  | append_singleton calls call ih =>
      obtain ⟨held, latest⟩ := ih
      rw [List.foldl_append, latest?_concat]
      refine ⟨kept _ call held, (overwrites _ call held).trans ?_⟩
      rw [latest]
      cases written call <;> rfl

variable (calls : List DeviceCall)

theorem timestamp_latest :
    (calls.foldl put s).timestamp = (latest? DeviceCall.timestamp? calls).getD s.timestamp :=
  (latest_writer (P := fun _ => True) DeviceCall.timestamp? timestamp (fun _ _ _ => trivial)
    (fun s call _ => s.put_timestamp call) trivial calls).2

theorem eventPolicy_latest :
    (calls.foldl put s).eventPolicy =
      (latest? DeviceCall.eventPolicy? calls).getD s.eventPolicy :=
  (latest_writer (P := fun _ => True) DeviceCall.eventPolicy? eventPolicy (fun _ _ _ => trivial)
    (fun s call _ => s.put_eventPolicy call) trivial calls).2

/-- What can be programmed stays as it was, so the requests that were accepted are those that would
be accepted at first. -/
theorem alert_latest (alert : Alert) :
    (calls.foldl put s).alert.limits = s.alert.limits ∧
      (calls.foldl put s).alert.setting alert =
        (latest? (DeviceCall.alertSetting? s.alert.programmableAlerts alert) calls).getD
          (s.alert.setting alert) := by
  refine latest_writer (P := fun t => t.alert.limits = s.alert.limits)
    (DeviceCall.alertSetting? s.alert.programmableAlerts alert) (·.alert.setting alert)
    (fun t call same => (t.put_limits call).trans same) (fun t call same => ?_) rfl calls
  have programmable : t.alert.programmableAlerts = s.alert.programmableAlerts :=
    congrArg Prod.fst same
  exact programmable ▸ t.put_alertSetting call alert

end Settings

/-! ## Executions -/

namespace EmulatedDevice

variable (d : EmulatedDevice)

theorem execute_setTimestamp (time : UInt64) :
    d.execute CommandId.raw Opcode.setTimestamp (le64 time) =
      succeeds { d with timestamp := time } := by
  have length : ¬ (le64 time).length ≠ 8 := not_not_intro (length_le64 time)
  have value : UInt64.ofNat (fromLittleEndian (le64 time)) = time := by
    have fits : time.toNat < wordCount 8 := time.toNat_lt
    rw [le64, fromLittleEndian_littleEndian, Nat.mod_eq_of_lt fits, UInt64.ofNat_toNat]
  rw [show d.execute _ _ _ = d.changeTimestamp (le64 time) from rfl, changeTimestamp,
    if_neg length, value]

theorem execute_setEventPolicy (policy : EventPolicy) :
    d.execute CommandId.raw Opcode.setEventPolicy policy.encode =
      succeeds { d with eventPolicy := policy } := by
  have read : EventPolicy.decode policy.encode = .ok policy :=
    EventPolicy.packsExactly.decode_encode policy
  rw [show d.execute _ _ _ = d.changeEventPolicy policy.encode from rfl, changeEventPolicy, read]

theorem execute_setAlertConfig (request : AlertRequest) :
    d.execute CommandId.setAlertConfig 0 request.encode =
      if covers d.alert.programmableAlerts request.validActions then
        succeeds { d with alert := d.alert.apply request }
      else d.refuses .invalidInput := by
  have read : AlertRequest.decode request.encode = .ok request :=
    AlertRequest.packsExactly.decode_encode request
  rw [show d.execute _ _ _ = d.changeAlert request.encode from rfl, changeAlert, read]

end EmulatedDevice

/-! ## Calls -/

section Device

variable {config : DeviceConfig} {d : EmulatedDevice} {world : World Emulator}

theorem Setter.setTimestamp_writes (ready : world.device.Ready config d) (time : UInt64) :
    let ran := (Setter.setTimestamp time).perform Emulator.backend config.info world
    ran.1 = .ok .complete ∧ ∃ after, ran.2.device.Hosts config after ∧ after.timestamp = time := by
  intro ran
  obtain ⟨d', -, answer, hosts⟩ := Inquiry.setRaw_writes ready
    (show Opcode.setTimestamp ≠ 0 by decide) (show (le64 time).length ≠ 0 by simp) (by simp)
    fun d' => by rw [d'.execute_setTimestamp]; rfl
  rw [d'.execute_setTimestamp] at answer hosts
  exact ⟨answer, _, hosts, rfl⟩

theorem Setter.setEventPolicy_writes (ready : world.device.Ready config d) (policy : EventPolicy) :
    let ran := (Setter.setEventPolicy policy).perform Emulator.backend config.info world
    ran.1 = .ok .complete ∧
      ∃ after, ran.2.device.Hosts config after ∧ after.eventPolicy = policy := by
  intro ran
  have length : policy.encode.length = 4 := policy.length_encode
  obtain ⟨d', -, answer, hosts⟩ := Inquiry.setRaw_writes ready
    (show Opcode.setEventPolicy ≠ 0 by decide) (show policy.encode.length ≠ 0 by omega) (by omega)
    fun d' => by rw [d'.execute_setEventPolicy]; rfl
  rw [d'.execute_setEventPolicy] at answer hosts
  exact ⟨answer, _, hosts, rfl⟩

theorem Setter.setAlertConfig_writes (ready : world.device.Ready config d)
    (request : AlertRequest) :
    let ran := (Setter.setAlertConfig request).perform Emulator.backend config.info world
    let accepted := covers d.alert.programmableAlerts request.validActions
    ran.1 = (if accepted then .ok .complete else .error (.device .invalidInput)) ∧
      ∃ after, ran.2.device.Hosts config after ∧
        after.alert = if accepted then d.alert.apply request else d.alert := by
  intro ran accepted
  obtain ⟨d', same, answer, hosts⟩ := Inquiry.setAlertConfig_writes ready request fun d' => by
    rw [d'.execute_setAlertConfig]
    split <;> rfl
  rw [d'.execute_setAlertConfig, same.alert nofun] at answer hosts
  by_cases accept : accepted = true
  · rw [if_pos accept] at answer hosts ⊢
    rw [if_pos accept]
    exact ⟨answer, _, hosts, rfl⟩
  · rw [if_neg accept] at answer hosts ⊢
    rw [if_neg accept]
    exact ⟨answer, _, hosts, same.alert nofun⟩

/-- What is there to change something else leaves the settings alone. -/
theorem EmulatedDevice.SameBut.settings {part? : Option DevicePart} {d' : EmulatedDevice}
    (same : d.SameBut part? d') (timestamp : part? ≠ some .timestamp)
    (eventPolicy : part? ≠ some .eventPolicy) (alert : part? ≠ some .alert) :
    d'.settings = d.settings := by
  rw [EmulatedDevice.settings, same.timestamp timestamp, same.eventPolicy eventPolicy,
    same.alert alert, EmulatedDevice.settings]

theorem DeviceCall.set_device (setter : Setter) (info : DeviceInfo) :
    ((DeviceCall.set setter).perform Emulator.backend info world).2 =
      (setter.perform Emulator.backend info world).2 :=
  congrArg Prod.snd (bind_pure_apply _ (fun _ => ()) world)

/-- A call puts its setting, and every other call leaves the settings alone. -/
theorem DeviceCall.settles (ready : world.device.Ready config d) (call : DeviceCall) :
    ∃ d', (call.perform Emulator.backend config.info world).2.device.Ready config d' ∧
      d'.settings = d.settings.put call := by
  obtain ⟨d', same, hosts, -⟩ := call.safe ready.standard world d ready.toHosts
  refine ⟨d', ready.after same hosts, ?_⟩
  -- What a setter writes is read off its own run, and everything else off the frame of the call.
  cases call with
  | set setter =>
      rw [set_device] at hosts
      cases setter with
      | setTimestamp time =>
          obtain ⟨-, after, left, written⟩ := Setter.setTimestamp_writes ready time
          obtain rfl := left.unique hosts
          rw [EmulatedDevice.settings, written, same.eventPolicy nofun, same.alert nofun]
          rfl
      | setEventPolicy policy =>
          obtain ⟨-, after, left, written⟩ := Setter.setEventPolicy_writes ready policy
          obtain rfl := left.unique hosts
          rw [EmulatedDevice.settings, written, same.timestamp nofun, same.alert nofun]
          rfl
      | setAlertConfig request =>
          obtain ⟨-, after, left, written⟩ := Setter.setAlertConfig_writes ready request
          obtain rfl := left.unique hosts
          rw [EmulatedDevice.settings, written, same.timestamp nofun, same.eventPolicy nofun]
          exact apply_ite (Settings.mk d.timestamp d.eventPolicy) _ _ _
      | transferFirmware => exact same.settings nofun nofun nofun
      | activateFirmware => exact same.settings nofun nofun nofun
  | label call =>
      cases call <;> exact same.settings nofun nofun nofun
  | _ => exact same.settings nofun nofun nofun

/-- The world after calls, whether each of them succeeds or not. -/
def DeviceCall.performAll {δ : Type} (backend : Backend δ) (info : DeviceInfo)
    (calls : List DeviceCall) (world : World δ) : World δ :=
  calls.foldl (fun world call => (call.perform backend info world).2) world

theorem DeviceCall.performAll_settles (ready : world.device.Ready config d)
    (calls : List DeviceCall) :
    ∃ d', (performAll Emulator.backend config.info calls world).device.Ready config d' ∧
      d'.settings = calls.foldl Settings.put d.settings := by
  induction calls generalizing world d with
  | nil => exact ⟨d, ready, rfl⟩
  | cons call calls ih =>
      obtain ⟨d', ready', put⟩ := call.settles ready
      obtain ⟨d'', ready'', settled⟩ := ih ready'
      exact ⟨d'', ready'', by rw [settled, put]; rfl⟩

/-! ## Reading -/

theorem Getter.timestamp_reads (ready : world.device.Ready config d) :
    (Getter.timestamp.perform Emulator.backend config.info world).1 = .ok d.timestamp := by
  have reads (d' : EmulatedDevice) (same : d.SameBut none d') :
      d'.execute CommandId.raw Opcode.getTimestamp [] = d'.answers (le64 d.timestamp) := by
    rw [← same.timestamp nofun]
    rfl
  have decoded : Reader.exactly 8 Reader.u64 (le64 d.timestamp) = .ok d.timestamp := by
    have read := Reading.value_u64 [] d.timestamp
    rw [List.append_nil] at read
    rw [Reading.u64.exactly_eq (Nat.le_refl 8), if_neg (by simp), read]
  exact (Inquiry.getRaw_reads ready (by decide) (by decide) reads (by simp) _).trans decoded

theorem Getter.eventPolicy_reads (ready : world.device.Ready config d) :
    (Getter.eventPolicy.perform Emulator.backend config.info world).1 = .ok d.eventPolicy := by
  have reads (d' : EmulatedDevice) (same : d.SameBut none d') :
      d'.execute CommandId.raw Opcode.getEventPolicy [] = d'.answers d.eventPolicy.encode := by
    rw [← same.eventPolicy nofun]
    rfl
  exact (Inquiry.getRaw_reads ready (by decide) (by decide) reads
    (Nat.le_of_eq d.eventPolicy.length_encode) _).trans (EventPolicy.packsExactly.decode_encode _)

theorem Getter.alertConfig_reads (ready : world.device.Ready config d) :
    (Getter.alertConfig.perform Emulator.backend config.info world).1 = .ok d.alert := by
  have reads (d' : EmulatedDevice) (same : d.SameBut none d') :
      d'.execute CommandId.getAlertConfig 0 [] = d'.answers d.alert.encode := by
    rw [← same.alert nofun]
    rfl
  have first : (standardCatalog.find? fun entry => entry.id == CommandId.getAlertConfig) =
      some (.enabled CommandId.getAlertConfig 0 16) := rfl
  have fits : (d.alert.encode.length : Int) ≤ 16 := by
    rw [d.alert.length_encode]
    decide
  exact (Inquiry.get_reads ready (by decide) first (by decide) (by decide) reads fits _).trans
    (AlertConfig.packsExactly.decode_encode _)

end Device

open EmulatedDevice DeviceCall

/-- **What was set last is read back, field by field.**  After every run of calls on a standard
device that was switched on, the clock and the event policy are those that were set last, and each
alert has the setting of the latest accepted request that was about it; critical thresholds and what
can be programmed stay as they were.  A request is accepted exactly if it is about nothing that
cannot be programmed. -/
theorem settings_read_back (configs : List DeviceConfig) (config : DeviceConfig)
    (world : World Emulator)
    (first : configs.find? (fun other => other.id == config.id) = some config)
    (started : world.device.devices = configs.map .powerOn)
    (standard : config.catalog = standardCatalog) (room : 67 ≤ config.payloadMax.toNat)
    (calls : List DeviceCall) :
    let now := performAll Emulator.backend config.info calls world
    let programmable := initialAlert.programmableAlerts
    (Getter.timestamp.perform Emulator.backend config.info now).1 =
      .ok ((latest? timestamp? calls).getD 0) ∧
    (Getter.eventPolicy.perform Emulator.backend config.info now).1 =
      .ok ((latest? eventPolicy? calls).getD (powerOn config).eventPolicy) ∧
    (∀ request, ((Setter.setAlertConfig request).perform Emulator.backend config.info now).1 =
      if covers programmable request.validActions then .ok .complete
      else .error (.device .invalidInput)) ∧
    ∃ alerts, (Getter.alertConfig.perform Emulator.backend config.info now).1 = .ok alerts ∧
      alerts.limits = initialAlert.limits ∧
      ∀ alert : Alert, alerts.setting alert =
        (latest? (alertSetting? programmable alert) calls).getD (initialAlert.setting alert) := by
  intro now programmable
  have ready : world.device.Ready config (powerOn config) :=
    ⟨.of_powerOn first started, .powerOn config, standard, room⟩
  obtain ⟨d, ready', settled⟩ := performAll_settles ready calls
  let s := (powerOn config).settings
  have timestamp : d.timestamp = _ := (congrArg _ settled).trans (s.timestamp_latest calls)
  have eventPolicy : d.eventPolicy = _ := (congrArg _ settled).trans (s.eventPolicy_latest calls)
  have alerts (alert : Alert) : d.alert.limits = initialAlert.limits ∧ d.alert.setting alert = _ :=
    (congrArg Settings.alert settled) ▸ s.alert_latest calls alert
  have limits := (alerts .lifeUsed).1
  refine ⟨?_, ?_, fun request => ?_, d.alert, ?_, limits, fun alert => (alerts alert).2⟩
  · rw [Getter.timestamp_reads ready', timestamp]
    rfl
  · rw [Getter.eventPolicy_reads ready', eventPolicy]
    rfl
  · have same : d.alert.programmableAlerts = programmable := congrArg Prod.fst limits
    rw [← same]
    exact (Setter.setAlertConfig_writes ready' request).1
  · exact Getter.alertConfig_reads ready'

/-- Two requests, a refused one and a read of labels later: the first alert has the setting of the
first request, the second that of the second, and the clock what was set last. -/
theorem later_requests_read_back :
    let about (bits enable : UInt8) (threshold : UInt16) : AlertRequest :=
      { validActions := bits, enableActions := enable, overTemperatureWarning := threshold,
        underTemperatureWarning := threshold }
    let calls : List DeviceCall :=
      [.set (.setTimestamp 5), .set (.setAlertConfig (about 6 2 70)),
        .set (.setAlertConfig (about 4 4 9)), .set (.setAlertConfig (about 0x82 0 1)),
        .label (.read [0, 0] 0 2), .set (.setTimestamp 8)]
    let now := performAll Emulator.backend (DeviceConfig.info {}) calls
      { device := .ofConfigs [{}] }
    (Getter.timestamp.perform Emulator.backend (DeviceConfig.info {}) now).1 = .ok 8 ∧
      ∃ alerts, (Getter.alertConfig.perform Emulator.backend (DeviceConfig.info {}) now).1 =
          .ok alerts ∧
        alerts.setting .overTemperature = ⟨70, true⟩ ∧
        alerts.setting .underTemperature = ⟨9, true⟩ := by
  intro about calls now
  obtain ⟨timestamp, -, -, alerts, read, -, settings⟩ :=
    settings_read_back [{}] {} { device := .ofConfigs [{}] } rfl rfl rfl (by decide) calls
  exact ⟨timestamp, alerts, read, (settings .overTemperature).trans (by decide),
    (settings .underTemperature).trans (by decide)⟩

end CxlMailbox
