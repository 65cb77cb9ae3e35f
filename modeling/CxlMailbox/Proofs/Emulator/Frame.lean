/-
# CxlMailbox.Proofs.Emulator.Frame — what a send changes on an emulated device

A command changes at most one part of a device, the one it is there to change, and a command that
fails changes nothing and delivers nothing:

* `SendRequest.target?` is the part that a request is there to change, and `SameBut part? d d'` says
  that `d'` is the device `d` up to that part and the call counters;
* `Lawful` lists what a command can come to, and `execute_lawful` says that the list is complete.
  No command that changes the device has a response, so a response that does not fit is refused
  before anything was changed;
* `send_refused` and `send_carried` are the two ends of a send, and `send_same` and `send_failed`
  what it leaves of the device;
* `Sound` holds of every state that events lead to (`after_sound`), and a background operation that
  runs goes on for ever (`after_background`).

`sends_change_one_part` says so of every run.
-/
import CxlMailbox.Emulator.Device
import CxlMailbox.Proofs.Payload.Alerts

namespace CxlMailbox

set_option autoImplicit false

/-! ## Parts of a device -/

/-- The parts of a device's state that commands change. -/
inductive DevicePart where
  | labels
  | alert
  | eventPolicy
  | timestamp
  | background
  deriving DecidableEq, Repr

/-- The part that a raw command is there to change. -/
def Opcode.target? (opcode : UInt16) : Option DevicePart :=
  if opcode = setEventPolicy then some .eventPolicy
  else if opcode = setTimestamp then some .timestamp
  else if opcode = transferFirmware ∨ opcode = activateFirmware then some .background
  else none

/-- The part that a request is there to change; all others only read. -/
def SendRequest.target? (request : SendRequest) : Option DevicePart :=
  if request.id = CommandId.setLabels then some .labels
  else if request.id = CommandId.setAlertConfig then some .alert
  else if request.id = CommandId.raw then Opcode.target? request.rawOpcode
  else none

theorem SendRequest.target?_background {request : SendRequest}
    (triggers : request.target? = some .background) :
    request.id = CommandId.raw ∧
      (request.rawOpcode = Opcode.transferFirmware ∨
        request.rawOpcode = Opcode.activateFirmware) := by
  unfold target? Opcode.target? at triggers
  grind

namespace EmulatedDevice

/-- The same device up to one part, if any, and the number of calls it has had. -/
structure SameBut (part? : Option DevicePart) (d d' : EmulatedDevice) : Prop where
  config : d'.config = d.config
  identify : d'.identify = d.identify
  health : d'.health = d.health
  firmware : d'.firmware = d.firmware
  forcedStatus : d'.forcedStatus = d.forcedStatus
  outputLimit : d'.outputLimit = d.outputLimit
  nodeMinor : d'.nodeMinor = d.nodeMinor
  labels : part? ≠ some .labels → d'.labels = d.labels
  alert : part? ≠ some .alert → d'.alert = d.alert
  eventPolicy : part? ≠ some .eventPolicy → d'.eventPolicy = d.eventPolicy
  timestamp : part? ≠ some .timestamp → d'.timestamp = d.timestamp
  background : part? ≠ some .background → d'.background = d.background

namespace SameBut

variable {part? : Option DevicePart} {d d' d'' : EmulatedDevice}

theorem refl (part? : Option DevicePart) (d : EmulatedDevice) : d.SameBut part? d := by
  constructor <;> intros <;> rfl

theorem trans (first : d.SameBut part? d') (second : d'.SameBut part? d'') :
    d.SameBut part? d'' where
  config := second.config.trans first.config
  identify := second.identify.trans first.identify
  health := second.health.trans first.health
  firmware := second.firmware.trans first.firmware
  forcedStatus := second.forcedStatus.trans first.forcedStatus
  outputLimit := second.outputLimit.trans first.outputLimit
  nodeMinor := second.nodeMinor.trans first.nodeMinor
  labels other := (second.labels other).trans (first.labels other)
  alert other := (second.alert other).trans (first.alert other)
  eventPolicy other := (second.eventPolicy other).trans (first.eventPolicy other)
  timestamp other := (second.timestamp other).trans (first.timestamp other)
  background other := (second.background other).trans (first.background other)

/-- What changes nothing changes at most a part. -/
theorem weaken (same : d.SameBut none d') (part? : Option DevicePart) : d.SameBut part? d' where
  config := same.config
  identify := same.identify
  health := same.health
  firmware := same.firmware
  forcedStatus := same.forcedStatus
  outputLimit := same.outputLimit
  nodeMinor := same.nodeMinor
  labels _ := same.labels nofun
  alert _ := same.alert nofun
  eventPolicy _ := same.eventPolicy nofun
  timestamp _ := same.timestamp nofun
  background _ := same.background nofun

/-- The numbers of calls do not count. -/
theorem counted (part? : Option DevicePart) (d : EmulatedDevice) (queryCalls sendCalls : Nat) :
    d.SameBut part? { d with queryCalls, sendCalls } := by
  constructor <;> intros <;> rfl

end SameBut

/-! ## What a command comes to -/

/-- What a command can come to that is there to change a part: it answers and changes nothing, it
fails and changes nothing, or it changes that part and has no response. -/
inductive Lawful (d : EmulatedDevice) (part? : Option DevicePart) : Effect → Prop
  | answers (response : Bytes) : Lawful d part? (d.answers response)
  | refuses (status : Status) (failure : status.isFailure = true)
      (classified : status.Classified) : Lawful d part? (d.refuses status)
  | changes (status : Status) (d' : EmulatedDevice) (done : status.isFailure = false)
      (same : d.SameBut part? d') : Lawful d part? ⟨status, none, d'⟩

/-- In every case it changes at most that part. -/
theorem Lawful.same {d : EmulatedDevice} {part? : Option DevicePart} {effect : Effect}
    (lawful : d.Lawful part? effect) : d.SameBut part? effect.device := by
  cases lawful with
  | answers response => exact .refl part? d
  | refuses status failure classified => exact .refl part? d
  | changes status d' done same => exact same

/-- In every case its status is that of its code. -/
theorem Lawful.classified {d : EmulatedDevice} {part? : Option DevicePart} {effect : Effect}
    (lawful : d.Lawful part? effect) : effect.status.Classified := by
  cases lawful with
  | answers response => trivial
  | refuses status failure classified => exact classified
  | changes status d' done same => exact Status.classified_of_not_failure done

section Commands

variable (d : EmulatedDevice) (input : Bytes)

theorem readLabels_lawful (part? : Option DevicePart) : d.Lawful part? (d.readLabels input) := by
  unfold readLabels
  split
  · exact .refuses _ rfl trivial
  · dsimp only
    split
    · exact .answers _
    · exact .refuses _ rfl trivial

theorem writeLabels_lawful : d.Lawful (some .labels) (d.writeLabels input) := by
  unfold writeLabels
  split
  · exact .refuses _ rfl trivial
  · dsimp only
    split
    · exact .changes _ _ rfl { SameBut.refl _ d with labels := nofun }
    · exact .refuses _ rfl trivial

theorem changeAlert_lawful : d.Lawful (some .alert) (d.changeAlert input) := by
  unfold changeAlert
  split
  · exact .refuses _ rfl trivial
  · split
    · exact .changes _ _ rfl { SameBut.refl _ d with alert := nofun }
    · exact .refuses _ rfl trivial

theorem readLog_lawful (part? : Option DevicePart) : d.Lawful part? (d.readLog input) := by
  unfold readLog
  split
  · exact .refuses _ rfl trivial
  · split
    · exact .answers _
    · exact .refuses _ rfl trivial

theorem changeEventPolicy_lawful : d.Lawful (some .eventPolicy) (d.changeEventPolicy input) := by
  unfold changeEventPolicy
  split
  · exact .refuses _ rfl trivial
  · exact .changes _ _ rfl { SameBut.refl _ d with eventPolicy := nofun }

theorem changeTimestamp_lawful : d.Lawful (some .timestamp) (d.changeTimestamp input) := by
  unfold changeTimestamp
  split
  · exact .refuses _ rfl trivial
  · exact .changes _ _ rfl { SameBut.refl _ d with timestamp := nofun }

theorem startBackground_lawful (opcode : UInt16) :
    d.Lawful (some .background) (d.startBackground opcode) := by
  unfold startBackground
  split
  · exact .refuses _ rfl trivial
  · exact .changes _ _ rfl { SameBut.refl _ d with background := nofun }

theorem executeRaw_lawful (opcode : UInt16) :
    d.Lawful (Opcode.target? opcode) (d.executeRaw opcode input) := by
  fun_cases executeRaw
  case case1 | case3 | case4 | case6 => exact .answers _
  case case2 sets =>
    subst sets
    exact d.changeEventPolicy_lawful input
  case case5 sets =>
    subst sets
    exact d.changeTimestamp_lawful input
  case case7 starts =>
    rcases starts with rfl | rfl <;> exact d.startBackground_lawful _
  case case8 => exact .refuses _ rfl trivial

/-- Every command comes to something lawful. -/
theorem execute_lawful (request : SendRequest) :
    d.Lawful request.target? (d.execute request.id request.rawOpcode request.input) := by
  fun_cases execute
  case case1 | case2 | case3 | case7 => exact .answers _
  case case4 sets =>
    rw [SendRequest.target?, sets]
    exact d.changeAlert_lawful _
  case case5 => exact d.readLabels_lawful _ _
  case case6 sets =>
    rw [SendRequest.target?, sets]
    exact d.writeLabels_lawful _
  case case8 => exact d.readLog_lawful _ _
  case case9 raw =>
    rw [SendRequest.target?, raw]
    exact d.executeRaw_lawful _ _
  case case10 => exact .refuses _ rfl trivial

/-! ## Sends -/

/-- A delivery reports a failure and delivers nothing, or it reports none. -/
structure Faithful (d : EmulatedDevice) (part? : Option DevicePart) (delivery : Delivery) :
    Prop where
  same : d.SameBut part? delivery.device
  failed : (Status.ofWord delivery.receipt.returnWord).isFailure = true →
    d.SameBut none delivery.device ∧ delivery.written = []

variable {d input}

theorem deliver_forced {request : SendRequest} {word : UInt32}
    (forced : d.forcedStatus = some word) :
    d.deliver request = ⟨⟨0, word⟩, [], d, none⟩ := by
  rw [deliver, forced]

theorem deliver_faithful (request : SendRequest) (unforced : d.forcedStatus = none) :
    d.Faithful request.target? (d.deliver request) := by
  have lawful := d.execute_lawful request
  rw [deliver, unforced]
  generalize d.execute request.id request.rawOpcode request.input = effect at lawful ⊢
  cases lawful with
  | answers response =>
      dsimp only [answers]
      split
      · exact ⟨.refl _ d, fun _ => ⟨.refl _ d, rfl⟩⟩
      · exact ⟨.refl _ d, nofun⟩
  | refuses status failure classified => exact ⟨.refl _ d, fun _ => ⟨.refl _ d, rfl⟩⟩
  | changes status d' done same =>
      refine ⟨same, fun failure => ?_⟩
      rw [Status.ofWord_toWord (Status.classified_of_not_failure done), done] at failure
      cases failure

variable (d)

/-- The device once it was called. -/
def called : EmulatedDevice := { d with sendCalls := d.sendCalls + 1 }

theorem sameBut_called (part? : Option DevicePart) : d.SameBut part? d.called :=
  .counted part? d _ _

theorem send_refused (info : DeviceInfo) {request : SendRequest} {reason : String}
    (fault : d.driverFault? request = some reason) :
    d.send info request =
      { verdict := .error (.transport info.nodePath reason), device := d.called } := by
  have same : d.called.driverFault? request = some reason := fault
  rw [called] at same
  simp only [send, same, called]

theorem send_carried (info : DeviceInfo) {request : SendRequest}
    (clear : d.driverFault? request = none) :
    ∃ log, d.send info request =
      { verdict := .ok (d.called.deliver request).receipt
        written := (d.called.deliver request).written
        device := (d.called.deliver request).device, log } := by
  have same : d.called.driverFault? request = none := clear
  rw [called] at same
  simp only [send, same, called]
  exact ⟨_, rfl⟩

end Commands

end EmulatedDevice

/-- The driver refused the send, or the device answered with a failure. -/
def SendReply.Failed {δ : Type} (reply : SendReply δ) : Prop :=
  match reply.verdict with
  | .error _ => True
  | .ok receipt => (Status.ofWord receipt.returnWord).isFailure = true

namespace EmulatedDevice

variable {d : EmulatedDevice}

/-- A send changes at most the part that it is there to change. -/
theorem send_same (d : EmulatedDevice) (info : DeviceInfo) (request : SendRequest) :
    d.SameBut request.target? (d.send info request).device := by
  have counted : d.SameBut request.target? d.called := d.sameBut_called _
  rcases fault : d.driverFault? request with _ | reason
  · obtain ⟨log, sent⟩ := d.send_carried info fault
    rw [sent]
    rcases forced : d.called.forcedStatus with _ | word
    · exact counted.trans (deliver_faithful request forced).same
    · rw [deliver_forced forced]
      exact counted
  · rw [d.send_refused info fault]
    exact counted

/-- A send that fails, or that the forced status answers, changes nothing and delivers nothing. -/
theorem send_failed {info : DeviceInfo} {request : SendRequest}
    (failed : (d.send info request).Failed ∨ d.forcedStatus ≠ none) :
    d.SameBut none (d.send info request).device ∧ (d.send info request).written = [] := by
  have counted : d.SameBut none d.called := d.sameBut_called _
  rcases fault : d.driverFault? request with _ | reason
  · obtain ⟨log, sent⟩ := d.send_carried info fault
    rw [sent] at failed ⊢
    rcases forced : d.called.forcedStatus with _ | word
    · have failure := failed.resolve_right (not_not_intro forced)
      obtain ⟨same, nothing⟩ := (deliver_faithful request forced).failed failure
      exact ⟨counted.trans same, nothing⟩
    · rw [deliver_forced forced]
      exact ⟨counted, rfl⟩
  · rw [d.send_refused info fault]
    exact ⟨counted, rfl⟩

end EmulatedDevice

/-! ## Runs -/

/-- What can happen to a device. -/
inductive DeviceEvent where
  | query (buffer : QueryBuffer)
  | send (info : DeviceInfo) (request : SendRequest)
  /-- A status is forced, or none any more. -/
  | force (status? : Option UInt32)
  /-- The delivered output is limited, or not any more. -/
  | limit (bytes? : Option UInt32)

/-- The device after an event. -/
def DeviceEvent.apply (d : EmulatedDevice) : DeviceEvent → EmulatedDevice
  | query buffer => (d.query buffer).device
  | send info request => (d.send info request).device
  | force status? => { d with forcedStatus := status? }
  | limit bytes? => { d with outputLimit := bytes? }

namespace EmulatedDevice

variable {d : EmulatedDevice} {config : DeviceConfig}

/-- The device after events, one after the other. -/
def after (d : EmulatedDevice) (events : List DeviceEvent) : EmulatedDevice :=
  events.foldl DeviceEvent.apply d

theorem query_same (d : EmulatedDevice) (buffer : QueryBuffer) :
    d.SameBut none (d.query buffer).device := by
  unfold query
  dsimp only
  split <;> exact .counted none d _ _

/-- A query counts itself; a send counts itself and may execute its command. -/
theorem send_device (d : EmulatedDevice) (info : DeviceInfo) (request : SendRequest) :
    (d.send info request).device = d.called ∨
      (d.send info request).device =
        (d.called.execute request.id request.rawOpcode request.input).device := by
  rcases fault : d.driverFault? request with _ | reason
  · obtain ⟨log, sent⟩ := d.send_carried info fault
    rw [sent, deliver]
    split
    · exact .inl rfl
    · dsimp only
      split
      · exact .inr rfl
      · split <;> exact .inr rfl
  · exact .inl (by rw [d.send_refused info fault])

/-- What all commands keep, and what does not depend on counters and faults, is kept by runs. -/
theorem after_keeps {P : EmulatedDevice → Prop}
    (free : ∀ d d', d.config = d'.config → d.labels = d'.labels → d.alert = d'.alert →
      d.background = d'.background → P d → P d')
    (executed : ∀ d (request : SendRequest), P d →
      P (d.execute request.id request.rawOpcode request.input).device)
    (events : List DeviceEvent) (holds : P d) : P (d.after events) := by
  induction events generalizing d with
  | nil => exact holds
  | cons event events ih =>
      refine ih ?_
      cases event with
      | query buffer =>
          have same := d.query_same buffer
          exact free d _ same.config.symm (same.labels nofun).symm (same.alert nofun).symm
            (same.background nofun).symm holds
      | send info request =>
          have counted : P d.called := free d _ rfl rfl rfl rfl holds
          rcases d.send_device info request with unchanged | executes
          · rw [DeviceEvent.apply, unchanged]
            exact counted
          · rw [DeviceEvent.apply, executes]
            exact executed _ _ counted
      | force status? => exact free d _ rfl rfl rfl rfl holds
      | limit bytes? => exact free d _ rfl rfl rfl rfl holds

/-! ### What always holds -/

/-- The device has its configuration and a label area of the configured size, and enables only
alerts that can be programmed. -/
structure Sound (config : DeviceConfig) (d : EmulatedDevice) : Prop where
  configured : d.config = config
  area : d.labels.length = config.labelAreaSize.toNat
  alerts : covers d.alert.programmableAlerts d.alert.validAlerts = true

namespace Sound

theorem powerOn (config : DeviceConfig) : (EmulatedDevice.powerOn config).Sound config :=
  ⟨rfl, Bytes.length_zeros _, show covers AlertBit.all 0 = true by decide⟩

/-- A change of any part but the labels and the alerts. -/
theorem of_same {part? : Option DevicePart} {d' : EmulatedDevice} (sound : d.Sound config)
    (same : d.SameBut part? d') (labels : part? ≠ some .labels) (alert : part? ≠ some .alert) :
    d'.Sound config where
  configured := same.config.trans sound.configured
  area := by rw [same.labels labels, sound.area]
  alerts := by rw [same.alert alert, sound.alerts]

theorem writeLabels (sound : d.Sound config) (input : Bytes) :
    (d.writeLabels input).device.Sound config := by
  unfold EmulatedDevice.writeLabels
  split
  · exact sound
  · dsimp only
    split
    · exact { sound with area := (Bytes.length_splice _ _ _).trans sound.area }
    · exact sound

theorem changeAlert (sound : d.Sound config) (input : Bytes) :
    (d.changeAlert input).device.Sound config := by
  unfold EmulatedDevice.changeAlert
  split
  · exact sound
  · split
    next about => exact { sound with alerts := AlertConfig.apply_programmable sound.alerts about }
    · exact sound

end Sound

theorem target?_raw (opcode : UInt16) :
    Opcode.target? opcode ≠ some .labels ∧ Opcode.target? opcode ≠ some .alert := by
  unfold Opcode.target?
  grind

theorem Sound.execute (sound : d.Sound config) (id : UInt32) (opcode : UInt16) (input : Bytes) :
    (d.execute id opcode input).device.Sound config := by
  fun_cases EmulatedDevice.execute
  case case4 => exact sound.changeAlert input
  case case5 => exact sound.of_same (d.readLabels_lawful input none).same nofun nofun
  case case6 => exact sound.writeLabels input
  case case8 => exact sound.of_same (d.readLog_lawful input none).same nofun nofun
  case case9 =>
    obtain ⟨labels, alert⟩ := target?_raw opcode
    exact sound.of_same (d.executeRaw_lawful input opcode).same labels alert
  all_goals exact sound

theorem after_sound (config : DeviceConfig) (events : List DeviceEvent) :
    ((powerOn config).after events).Sound config := by
  refine after_keeps ?_ (fun d request sound => sound.execute _ _ _) events (.powerOn config)
  intro d d' configured labels alert _ sound
  exact ⟨configured ▸ sound.configured, labels ▸ sound.area, alert ▸ sound.alerts⟩

/-! ### Background operations -/

theorem execute_trigger (d : EmulatedDevice) {request : SendRequest}
    (triggers : request.target? = some .background) :
    d.execute request.id request.rawOpcode request.input =
      d.startBackground request.rawOpcode := by
  obtain ⟨id, opcode⟩ := SendRequest.target?_background triggers
  rcases opcode with opcode | opcode <;> rw [id, opcode] <;> rfl

theorem startBackground_running (running : d.background.running = true) (opcode : UInt16) :
    d.startBackground opcode = d.refuses .busy :=
  if_pos running

/-- No command stops a background operation or starts another one. -/
theorem execute_background (running : d.background.running = true) (request : SendRequest) :
    (d.execute request.id request.rawOpcode request.input).device.background = d.background := by
  by_cases triggers : request.target? = some .background
  · rw [d.execute_trigger triggers, startBackground_running running]
    rfl
  · exact (d.execute_lawful request).same.background triggers

theorem after_background (running : d.background.running = true) (events : List DeviceEvent) :
    (d.after events).background = d.background := by
  refine after_keeps (P := fun d' => d'.background = d.background) ?_ ?_ events rfl
  · exact fun d d' _ _ _ same before => same ▸ before
  · exact fun d' request before => (execute_background (before ▸ running) request).trans before

/-- While an operation runs, the device is busy for every other one that reaches it. -/
theorem send_busy (running : d.background.running = true) (info : DeviceInfo)
    {request : SendRequest} (triggers : request.target? = some .background)
    (clear : d.driverFault? request = none) :
    (d.send info request).verdict = .ok ⟨0, d.forcedStatus.getD Status.busy.toWord⟩ := by
  obtain ⟨log, sent⟩ := d.send_carried info clear
  rw [sent]
  rcases forced : d.forcedStatus with _ | word
  · have busy := (d.called.execute_trigger triggers).trans
      (startBackground_running (d := d.called) running _)
    rw [deliver, show d.called.forcedStatus = none from forced]
    simp only [busy, refuses, Option.getD_none]
  · rw [deliver_forced (show d.called.forcedStatus = some word from forced)]
    rfl

end EmulatedDevice

open EmulatedDevice

/-- **A send changes one part of the device, or nothing.**  In every state that queries, sends and
faults lead to, a send changes at most the part that it is there to change; and it changes nothing
and delivers nothing if the driver refuses it, if a status is forced, or if it ends with a failure.
So the label area keeps its size, only programmable alerts are enabled, and a background operation
that was started stays the only one. -/
theorem sends_change_one_part (config : DeviceConfig) (events : List DeviceEvent)
    (info : DeviceInfo) (request : SendRequest) :
    let d := (powerOn config).after events
    let reply := d.send info request
    d.SameBut request.target? reply.device ∧
    (reply.Failed ∨ d.forcedStatus ≠ none → d.SameBut none reply.device ∧
      overlay reply.written request.output = request.output) ∧
    d.Sound config ∧
    (d.background.running = true → ∀ later : List DeviceEvent,
      (d.after later).background = d.background ∧
      (request.target? = some .background → (d.after later).driverFault? request = none →
        ((d.after later).send info request).verdict =
          .ok ⟨0, (d.after later).forcedStatus.getD Status.busy.toWord⟩)) := by
  intro d reply
  refine ⟨d.send_same info request, fun failed => ?_, after_sound config events,
    fun running later => ?_⟩
  · obtain ⟨same, nothing⟩ := send_failed failed
    exact ⟨same, by rw [nothing, overlay_nil]⟩
  · have same := after_background running later
    exact ⟨same, fun triggers clear => send_busy (same ▸ running) info triggers clear⟩

/-- The pass-through command for a mailbox opcode, without payloads. -/
def SendRequest.bare (opcode : UInt16) : SendRequest := .ofBuffers CommandId.raw opcode [] []

/-- After a transfer was started, a forced status answers for the device as long as it is there, and
then the device is busy; a clock without room for its reply fails and changes nothing. -/
theorem busy_after_transfer :
    let started := [DeviceEvent.send {} (.bare Opcode.transferFirmware)]
    let d := (powerOn {}).after started
    let again (events : List DeviceEvent) :=
      ((d.after events).send {} (.bare Opcode.activateFirmware)).verdict
    again [.force (some 0)] = .ok ⟨0, 0⟩ ∧ again [.force (some 0), .force none] = .ok ⟨0, 6⟩ ∧
      d.SameBut none (d.send {} (.bare Opcode.getTimestamp)).device := by
  intro started d again
  have running : d.background.running = true := rfl
  have busy (later : List DeviceEvent) :=
    (sends_change_one_part {} started {} (.bare Opcode.activateFirmware)).2.2.2 running later
  refine ⟨(busy _).2 rfl rfl, (busy _).2 rfl rfl, ?_⟩
  exact ((sends_change_one_part {} started {} (.bare Opcode.getTimestamp)).2.1 (.inl rfl)).1

end CxlMailbox
