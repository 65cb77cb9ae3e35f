/-
# CxlMailbox.Proofs.Refusal — a device that answers no request

A backend `Refuses` a device if it answers every request about it with one failure, writes nothing
and keeps its state.  A call on such a device has one of two ends: its own answer, where it gives
one without a request (`DeviceCall.verdict?`), or else the failure of its first request, after which
it makes no other.

* `Refuses.prepare` is the query that fails, and `Drive.Declined`, `Task.Declined` hand the failure
  through the rest of a command and of a call;
* `DeviceCall.declined` goes through the calls, `readPieces_declined` is a log that is being read;
* `Backend.Refuses.untouched`: no call changes anything but the log, and no request follows the
  first.
-/
import CxlMailbox.Proofs.Command.FinalOutput
import CxlMailbox.Proofs.Emulator.Calls

namespace CxlMailbox

set_option autoImplicit false

open Effect Session

variable {δ α β : Type}

/-- Every request about the device is refused with `e`; nothing is written, and the state is
kept. -/
structure Backend.Refuses (backend : Backend δ) (info : DeviceInfo) (e : Error)
    (files : FileTree) (d : δ) : Prop where
  query : ∀ buffer, ∃ log,
    backend.query files info buffer d = { verdict := .error e, device := d, log }
  send : ∀ request, ∃ log,
    backend.send files info request d = { verdict := .error e, device := d, log }

/-- The first request of a catalog query, refused. -/
def Exchange.declined (info : DeviceInfo) (e : Error) : Exchange :=
  .query info (.withCapacity 0) (.error e) []

/-- The world after one refused request. -/
def World.after (w : World (Recorded δ)) (refused : Exchange) (log : Array LogLine) :
    World (Recorded δ) :=
  { w with device := ⟨w.device.device, w.device.exchanges ++ [refused]⟩, log }

/-! ## Runs that fail at their first request -/

/-- Begun with a new command, the drive fails after one refused query; the command stays new. -/
def Drive.Declined (info : DeviceInfo) (e : Error) (w : World (Recorded δ))
    (x : Drive (Recorded δ) α) : Prop :=
  ∃ log, x ⟨.unvalidated info, w⟩ =
    (.error e, ⟨.unvalidated info, w.after (.declined info e) log⟩)

/-- The task fails after one refused query. -/
def Task.Declined (info : DeviceInfo) (e : Error) (w : World (Recorded δ))
    (x : Task (Recorded δ) Error α) : Prop :=
  ∃ log, x w = (.error e, w.after (.declined info e) log)

section

variable {info : DeviceInfo} {e : Error} {w : World (Recorded δ)}

theorem Drive.Declined.bind {x : Drive (Recorded δ) α} (declined : x.Declined info e w)
    (next : α → Drive (Recorded δ) β) : (x >>= next).Declined info e w :=
  declined.imp fun _ ran => bind_error ran next

theorem Drive.Declined.once {x : Drive (Recorded δ) α} (declined : x.Declined info e w) :
    Task.Declined info e w (x.once info) := by
  obtain ⟨log, ran⟩ := declined
  exact ⟨log, by rw [once_apply, ran]⟩

theorem Task.Declined.bind {x : Task (Recorded δ) Error α} (declined : x.Declined info e w)
    (next : α → Task (Recorded δ) Error β) : (x >>= next).Declined info e w :=
  declined.imp fun _ ran => bind_error ran next

end

namespace Backend.Refuses

variable {backend : Backend δ} {info : DeviceInfo} {e : Error} {w : World (Recorded δ)}

/-- A query that has to be made fails in its first round. -/
theorem fetch (refuses : backend.Refuses info e w.files w.device.device) {c : Command}
    (device : c.device = info) (unsettled : c.queryVerdict? = none) :
    ∃ log, Session.query backend.recorded ⟨c, w⟩ =
      (.error e, ⟨c, w.after (.declined info e) log⟩) := by
  obtain ⟨log, refused⟩ := refuses.query (.withCapacity 0)
  obtain ⟨log', ran⟩ := query_fetches backend.recorded (s := ⟨c, w⟩) unsettled
  simp only [Backend.recorded, device, refused] at ran
  exact ⟨log', ran⟩

/-- A send that has to be made fails, and leaves the command as it is. -/
theorem sending (refuses : backend.Refuses info e w.files w.device.device) {c : Command}
    (device : c.device = info) (clear : c.sendFault? = none) :
    ∃ log, Session.submit backend.recorded ⟨c, w⟩ =
      (.error e, ⟨c, w.after (.send info c.request (.error e) []) log⟩) := by
  obtain ⟨log, refused⟩ := refuses.send c.request
  obtain ⟨log', ran⟩ := submit_sends backend.recorded (s := ⟨c, w⟩) clear
  have same : c.withOutput (overlay [] c.output.bytes) = c := by
    rw [overlay_nil, Command.withOutput, Payload.withBytes_bytes]
  simp only [Backend.recorded, device, refused, same] at ran
  exact ⟨log', ran⟩

theorem prepare (refuses : backend.Refuses info e w.files w.device.device) (id : UInt32) :
    (Session.prepare backend.recorded id).Declined info e w :=
  Drive.Declined.bind (refuses.fetch rfl rfl) _

theorem prepareRaw (refuses : backend.Refuses info e w.files w.device.device) {opcode : UInt16}
    (nonzero : opcode ≠ 0) : (Session.prepareRaw backend.recorded opcode).Declined info e w := by
  obtain ⟨log, ran⟩ := refuses.prepare CommandId.raw
  exact ⟨log, by rw [prepareRaw_apply _ nonzero, ran]⟩

end Backend.Refuses

/-! ## Calls -/

section Calls

variable {backend : Backend δ} {info : DeviceInfo} {e : Error} {w : World (Recorded δ)}
  (refuses : backend.Refuses info e w.files w.device.device)

include refuses

namespace Inquiry

theorem setRaw_declined {opcode : UInt16} (nonzero : opcode ≠ 0) (input : Bytes) :
    Task.Declined info e w ((setRaw backend.recorded opcode input).once info) :=
  ((refuses.prepareRaw nonzero).bind _).once

theorem getRaw_declined {opcode : UInt16} (nonzero : opcode ≠ 0) (size : Nat)
    (decode : Bytes → Except Error α) :
    Task.Declined info e w ((getRaw backend.recorded opcode size decode).once info) :=
  ((refuses.prepareRaw nonzero).bind _).once

theorem get_declined (id : UInt32) (decode : Bytes → Except Error α) :
    Task.Declined info e w ((get backend.recorded id decode).once info) :=
  ((refuses.prepare id).bind _).once

theorem readPiece_declined (request : LogRequest) :
    Task.Declined info e w (readPiece backend.recorded info request) :=
  ((refuses.prepare CommandId.getLog).bind _).once

/-- A log of which bytes are still to come, whatever was read of it before. -/
theorem readPieces_declined (uuid : Uuid) (offset : UInt32) {wanted : Nat} (more : wanted ≠ 0) :
    Task.Declined info e w (readPieces backend.recorded info uuid offset wanted) := by
  rw [readPieces, if_neg more]
  exact (readPiece_declined refuses _).bind _

theorem effectsLog_declined : Task.Declined info e w (effectsLog backend.recorded info) :=
  (get_declined refuses _ _).bind _

end Inquiry

theorem Setter.declined (setter : Setter) :
    Task.Declined info e w (setter.perform backend.recorded info) := by
  cases setter with
  | setAlertConfig request => exact ((refuses.prepare _).bind _).once
  | setEventPolicy policy => exact Inquiry.setRaw_declined refuses (by decide) _
  | setTimestamp time => exact Inquiry.setRaw_declined refuses (by decide) _
  | transferFirmware => exact (Inquiry.setRaw_declined refuses (by decide) _).bind _
  | activateFirmware => exact (Inquiry.setRaw_declined refuses (by decide) _).bind _

theorem Getter.declined (getter : Getter α) :
    Task.Declined info e w (getter.perform backend.recorded info) := by
  cases getter with
  | identify | health | alertConfig | supportedLogs => exact Inquiry.get_declined refuses _ _
  | eventPolicy | timestamp | firmwareInfo => exact Inquiry.getRaw_declined refuses (by decide) _ _
  | backgroundStatus => exact (Inquiry.getRaw_declined refuses (by decide) _ _).bind _

/-- A label call without a fault fails as well, and the caller's buffer is not written to. -/
theorem LabelCall.declined {call : LabelCall} (clear : call.fault? info = none) :
    ∃ log, call.perform backend.recorded info w =
      ((.error e, call.buffer), w.after (.declined info e) log) := by
  obtain ⟨n, resolved, covers⟩ := fault?_eq_none_iff.mp clear
  obtain ⟨log, driven⟩ := perform_driven backend.recorded resolved covers w
  have asked : (call.drive backend.recorded n).Declined info e { w with log } := by
    cases call <;> exact (Backend.Refuses.prepare (w := { w with log }) refuses _).bind _
  obtain ⟨log', ran⟩ := asked
  rw [ran] at driven
  refine ⟨log', driven.trans ?_⟩
  cases call <;> rfl

end Calls

/-! ## Answers without a request -/

/-- The answer of a call that makes no request. -/
def DeviceCall.verdict? (info : DeviceInfo) : DeviceCall → Option (Except Error Unit)
  | readLog _ _ length =>
    if info.payloadMax = 0 then some (.error (.invalidArgument .noPayloads))
    else if length = 0 then some (.ok ())
    else none
  | label call => (call.fault? info).map fun fault => .error (.invalidArgument fault)
  | set _ | get _ | readPiece _ | effectsLog => none

/-- The answer of an attempt to make a command that makes no request. -/
def Origin.verdict? : Origin → Option (Except Error Unit)
  | unvalidated => some (.ok ())
  | known _ => none
  | raw opcode => if opcode = 0 then some (.error .reservedOpcode) else none

namespace DeviceCall

theorem perform_verdict (backend : Backend δ) {info : DeviceInfo} {call : DeviceCall}
    {verdict : Except Error Unit} (own : call.verdict? info = some verdict) (world : World δ) :
    ∃ log, call.perform backend info world = (verdict, { world with log }) := by
  cases call with
  | set setter | get getter | readPiece request | effectsLog => cases own
  | readLog uuid offset length =>
      refine ⟨world.log, ?_⟩
      simp only [verdict?] at own
      by_cases zero : info.payloadMax = 0
      · rw [if_pos zero] at own
        cases own
        simp only [perform, Inquiry.readLog, zero]
        rfl
      · rw [if_neg zero] at own
        by_cases empty : length = 0
        · rw [if_pos empty] at own
          cases own
          simp only [perform, Inquiry.readLog, zero, empty, if_false]
          rw [Inquiry.readPieces, if_pos (by rfl)]
          rfl
        · rw [if_neg empty] at own
          cases own
  | label call =>
      simp only [verdict?, Option.map_eq_some_iff] at own
      obtain ⟨fault, refused, rfl⟩ := own
      obtain ⟨log, ran⟩ := call.perform_fault backend refused world
      exact ⟨log, by simp only [perform, ran]⟩

theorem declined {backend : Backend δ} {info : DeviceInfo} {e : Error} {w : World (Recorded δ)}
    (refuses : backend.Refuses info e w.files w.device.device) {call : DeviceCall}
    (asks : call.verdict? info = none) :
    Task.Declined info e w (call.perform backend.recorded info) := by
  cases call with
  | set setter => exact (setter.declined refuses).bind _
  | get getter => exact (getter.declined refuses).bind _
  | readPiece request => exact (Inquiry.readPiece_declined refuses request).bind _
  | effectsLog => exact (Inquiry.effectsLog_declined refuses).bind _
  | readLog uuid offset length =>
      simp only [verdict?] at asks
      by_cases zero : info.payloadMax = 0
      · simp [zero] at asks
      · have more : length.toNat ≠ 0 := by
          intro empty
          simp [zero, UInt32.toNat_inj.mp (show length.toNat = (0 : UInt32).toNat from empty)]
            at asks
        have read : Task.Declined info e w (Inquiry.readLog backend.recorded info uuid offset
            length) := by
          rw [Inquiry.readLog, if_neg zero]
          exact Inquiry.readPieces_declined refuses uuid offset more
        exact read.bind _
  | label call =>
      have clear : call.fault? info = none := by simpa [verdict?] using asks
      obtain ⟨log, ran⟩ := LabelCall.declined refuses clear
      exact ⟨log, by simp only [perform, ran]⟩

theorem perform_follows {ε : Type} {f : δ → ε} {backend : Backend δ} {image : Backend ε}
    (follows : backend.Follows f image) (info : DeviceInfo) (call : DeviceCall) :
    Follows (World.mapDevice f) (call.perform backend info) (call.perform image info) := by
  cases call with
  | set setter => exact (setter.perform_follows follows info).bind fun _ => .pure ()
  | get getter => exact (getter.perform_follows follows info).bind fun _ => .pure ()
  | readPiece request =>
      exact (Inquiry.readPiece_follows follows info request).bind fun _ => .pure ()
  | readLog uuid offset length =>
      exact (Inquiry.readLog_follows follows info uuid offset length).bind fun _ => .pure ()
  | effectsLog => exact (Inquiry.effectsLog_follows follows info).bind fun _ => .pure ()
  | label call =>
      intro world
      simp only [perform, call.perform_follows follows info world]
      rfl

end DeviceCall

theorem Origin.make_follows {ε : Type} {f : δ → ε} {backend : Backend δ} {image : Backend ε}
    (follows : backend.Follows f image) (origin : Origin) :
    Follows (mapDevice f) (origin.make backend) (origin.make image) := by
  cases origin with
  | unvalidated => exact .pure ()
  | known id => exact prepare_follows follows id
  | raw opcode => exact prepareRaw_follows follows opcode

/-! ## What is left untouched -/

/-- What is done over a backend, in a session, ends with its own answer or, if it has none, with the
failure of the one request that it makes.  Only the log may have changed. -/
structure Drive.Stops (x : {ε : Type} → Backend ε → Drive ε α) (own? : Option (Except Error α))
    (request : Exchange) (e : Error) (backend : Backend δ) (s : Session δ) : Prop where
  answer : ∃ log, x backend s = (own?.getD (.error e), s.moved s.world.device log)
  exchanges : (x backend.recorded).exchanges s = own?.elim [request] fun _ => []

/-- The same of a task. -/
structure Task.Stops (x : {ε : Type} → Backend ε → Task ε Error α)
    (own? : Option (Except Error α)) (request : Exchange) (e : Error) (backend : Backend δ)
    (world : World δ) : Prop where
  answer : ∃ log, x backend world = (own?.getD (.error e), { world with log })
  exchanges : Task.exchanges (x backend.recorded) world = own?.elim [request] fun _ => []

theorem Drive.Stops.of_recorded {x : {ε : Type} → Backend ε → Drive ε α}
    {own? : Option (Except Error α)} {request : Exchange} {e : Error} {backend : Backend δ}
    {s : Session δ}
    (follows : Follows (mapDevice Recorded.device) (x backend.recorded) (x backend))
    (own : ∀ verdict, own? = some verdict → ∃ log,
      x backend.recorded s.recording = (verdict, s.recording.moved s.recording.world.device log))
    (asks : own? = none → ∃ log, x backend.recorded s.recording =
      (.error e, { s.recording with world := s.recording.world.after request log })) :
    Stops x own? request e backend s := by
  have same := follows s.recording
  rw [show s.recording.mapDevice Recorded.device = s from rfl] at same
  rcases answered : own? with _ | verdict
  · obtain ⟨log, ran⟩ := asks answered
    rw [ran] at same
    exact ⟨⟨log, same⟩, by rw [Drive.exchanges, ran]; rfl⟩
  · obtain ⟨log, ran⟩ := own verdict answered
    rw [ran] at same
    exact ⟨⟨log, same⟩, by rw [Drive.exchanges, ran]; rfl⟩

theorem Task.Stops.of_recorded {x : {ε : Type} → Backend ε → Task ε Error α}
    {own? : Option (Except Error α)} {request : Exchange} {e : Error} {backend : Backend δ}
    {world : World δ}
    (follows : Follows (World.mapDevice Recorded.device) (x backend.recorded) (x backend))
    (own : ∀ verdict, own? = some verdict → ∃ log,
      x backend.recorded world.recording = (verdict, { world.recording with log }))
    (asks : own? = none → ∃ log,
      x backend.recorded world.recording = (.error e, world.recording.after request log)) :
    Stops x own? request e backend world := by
  have same := follows world.recording
  rw [show world.recording.mapDevice Recorded.device = world from rfl] at same
  rcases answered : own? with _ | verdict
  · obtain ⟨log, ran⟩ := asks answered
    rw [ran] at same
    exact ⟨⟨log, same⟩, by rw [Task.exchanges, ran]; rfl⟩
  · obtain ⟨log, ran⟩ := own verdict answered
    rw [ran] at same
    exact ⟨⟨log, same⟩, by rw [Task.exchanges, ran]; rfl⟩

/-- Nothing about the device can be done in the world, and the attempt changes nothing: whatever the
command and however it was made, and at any point of a log. -/
structure Backend.Untouched (backend : Backend δ) (info : DeviceInfo) (e : Error)
    (world : World δ) : Prop where
  /-- A catalog query fails, and its buffer is not written to. -/
  buffer : ∀ buffer, ∃ log,
    backend.runQuery info buffer world = ((.error e, buffer), { world with log })
  /-- A send fails, and its output is not written to. -/
  output : ∀ request, ∃ log,
    backend.runSend info request world = ((.error e, request.output), { world with log })
  query : ∀ c : Command, c.device = info →
    Drive.Stops Session.query c.queryVerdict? (.declined info e) e backend ⟨c, world⟩
  make : ∀ origin : Origin,
    Drive.Stops (fun backend => origin.make backend) origin.verdict? (.declined info e) e backend
      ⟨.unvalidated info, world⟩
  submit : ∀ c : Command, c.device = info →
    Drive.Stops Session.submit (c.sendFault?.map .error) (.send info c.request (.error e) []) e
      backend ⟨c, world⟩
  call : ∀ call : DeviceCall,
    Task.Stops (fun backend => call.perform backend info) (call.verdict? info) (.declined info e) e
      backend world
  /-- The caller's buffer. -/
  lent : ∀ call : LabelCall, (call.perform backend info world).1.2 = call.buffer
  /-- The rest of a log. -/
  rest : ∀ uuid offset wanted, wanted ≠ 0 →
    Task.Stops (fun backend => Inquiry.readPieces backend info uuid offset wanted) none
      (.declined info e) e backend world

/-- **A device that answers no request is not touched**, at whichever point of a run its backend
begins to refuse. -/
theorem Backend.Refuses.untouched {backend : Backend δ} {info : DeviceInfo} {e : Error}
    {world : World δ} (refuses : backend.Refuses info e world.files world.device) :
    backend.Untouched info e world where
  buffer buffer := by
    obtain ⟨log, refused⟩ := refuses.query buffer
    exact ⟨_, by simp only [runQuery, refused, QueryBuffer.fill, overlay_nil]; rfl⟩
  output request := by
    obtain ⟨log, refused⟩ := refuses.send request
    exact ⟨_, by simp only [runSend, refused, overlay_nil]; rfl⟩
  query c device := by
    refine .of_recorded (query_follows backend.recorded_follows) (fun verdict settled => ?_)
      fun unsettled => Refuses.fetch (w := world.recording) refuses device unsettled
    exact ⟨world.log, query_settled settled⟩
  make origin := by
    refine .of_recorded (origin.make_follows backend.recorded_follows) (fun verdict own => ?_)
      fun asks => ?_
    · refine ⟨world.log, ?_⟩
      cases origin with
      | unvalidated =>
          cases own
          rfl
      | known id => cases own
      | raw opcode =>
          by_cases zero : opcode = 0
          · subst zero
            cases own
            rfl
          · simp [Origin.verdict?, zero] at own
    · cases origin with
      | unvalidated => cases asks
      | known id => exact Refuses.prepare (w := world.recording) refuses id
      | raw opcode =>
          have nonzero : opcode ≠ 0 := by
            rintro rfl
            cases asks
          exact Refuses.prepareRaw (w := world.recording) refuses nonzero
  submit c device := by
    refine .of_recorded (submit_follows backend.recorded_follows) (fun verdict own => ?_)
      fun asks => ?_
    · obtain ⟨fault, faulty, rfl⟩ := Option.map_eq_some_iff.mp own
      exact ⟨world.log, submit_refused faulty⟩
    · exact Refuses.sending (w := world.recording) refuses device (Option.map_eq_none_iff.mp asks)
  call call :=
    .of_recorded (call.perform_follows backend.recorded_follows info)
      (fun _ own => call.perform_verdict backend.recorded own _)
      fun asks => DeviceCall.declined (w := world.recording) refuses asks
  lent call := by
    have same := call.perform_follows backend.recorded_follows info world.recording
    rw [show world.recording.mapDevice Recorded.device = world from rfl] at same
    rw [same]
    rcases faulty : call.fault? info with _ | fault
    · obtain ⟨log, ran⟩ := LabelCall.declined (w := world.recording) refuses faulty
      rw [ran]
    · obtain ⟨log, ran⟩ := call.perform_fault backend.recorded faulty world.recording
      rw [ran]
  rest uuid offset wanted more :=
    .of_recorded (Inquiry.readPieces_follows backend.recorded_follows info uuid wanted offset)
      (fun _ own => by cases own)
      fun _ => Inquiry.readPieces_declined (w := world.recording) refuses uuid offset more

end CxlMailbox
