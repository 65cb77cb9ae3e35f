/-
# CxlMailbox.Proofs.Simulation — backends that answer alike

A backend `image` follows a `backend` under a map of their states if it answers every request the
same way and moves to the image of the state the other one moves to (`Backend.Follows`).  No
operation looks into a backend's state, so everything that is done over the one is then done over
the other: the same answers, the same commands, the same files and log lines, and states that
still correspond (`Session.query_follows`, `Session.submit_follows`, `Operation.perform_follows`,
`Drive.once_follows`).
-/
import CxlMailbox.Proofs.Session

namespace CxlMailbox

set_option autoImplicit false

variable {δ ε α : Type}

/-- The same world around another backend state. -/
def World.mapDevice (f : δ → ε) (world : World δ) : World ε :=
  { device := f world.device, files := world.files, log := world.log, printed := world.printed }

/-- The same command in the same world around another backend state. -/
def Session.mapDevice (f : δ → ε) (s : Session δ) : Session ε :=
  { command := s.command, world := s.world.mapDevice f }

/-- `image` answers as `backend` does, and its states are the images of the other's. -/
structure Backend.Follows (f : δ → ε) (backend : Backend δ) (image : Backend ε) : Prop where
  query : ∀ files info buffer d,
    let reply := backend.query files info buffer d
    image.query files info buffer (f d) =
      { verdict := reply.verdict, written := reply.written, device := f reply.device,
        log := reply.log }
  send : ∀ files info request d,
    let reply := backend.send files info request d
    image.send files info request (f d) =
      { verdict := reply.verdict, written := reply.written, device := f reply.device,
        log := reply.log }

variable {f : δ → ε} {backend : Backend δ} {image : Backend ε}

theorem Backend.Follows.runQuery (follows : backend.Follows f image) (info : DeviceInfo)
    (buffer : QueryBuffer) (world : World δ) :
    image.runQuery info buffer (world.mapDevice f) =
      ((backend.runQuery info buffer world).1,
        (backend.runQuery info buffer world).2.mapDevice f) := by
  have reply := follows.query world.files info buffer world.device
  simp only [Backend.runQuery, World.mapDevice, reply]
  cases (backend.query world.files info buffer world.device).verdict <;> rfl

theorem Backend.Follows.runSend (follows : backend.Follows f image) (info : DeviceInfo)
    (request : SendRequest) (world : World δ) :
    image.runSend info request (world.mapDevice f) =
      ((backend.runSend info request world).1,
        (backend.runSend info request world).2.mapDevice f) := by
  have reply := follows.send world.files info request world.device
  simp only [Backend.runSend, World.mapDevice, reply]

/-! ## Drives -/

namespace Session

open Effect

theorem inWorld_follows {effect : StateM (World δ) α} {effect' : StateM (World ε) α}
    (same : ∀ world, effect' (world.mapDevice f) =
      ((effect world).1, (effect world).2.mapDevice f)) :
    Follows (mapDevice f) (inWorld effect) (inWorld effect') := by
  intro s
  rw [inWorld_apply, inWorld_apply, show (s.mapDevice f).world = s.world.mapDevice f from rfl,
    same s.world]
  rfl

theorem inCommand_follows (step : Command → Except Error α × Command) :
    Follows (mapDevice f) (inCommand step) (inCommand step) := fun _ => rfl

theorem current_follows : Follows (mapDevice f) current current := fun _ => rfl

theorem log_follows (level : Level) (message : String) :
    Follows (mapDevice f) (log level message) (log level message) := fun _ => rfl

theorem reporting_follows (heading : String) {step : Drive δ α} {step' : Drive ε α}
    (same : Follows (mapDevice f) step step') :
    Follows (mapDevice f) (reporting heading step) (reporting heading step') :=
  same.tryCatch fun _ => (log_follows _ _).bind fun _ => .throw _

theorem queryRound_follows (follows : backend.Follows f image) (count : UInt32) :
    Follows (mapDevice f) (queryRound backend count) (queryRound image count) := by
  refine current_follows.bind fun c => reporting_follows _ ?_
  refine (inWorld_follows (follows.runQuery c.device _)).bind fun
    | (.ok (), buffer) => .pure buffer
    | (.error e, _) => .throw e

theorem query_follows (follows : backend.Follows f image) :
    Follows (mapDevice f) (query backend) (query image) := by
  refine current_follows.bind fun c => ?_
  rcases c.queryVerdict? with _ | e | _
  · refine (queryRound_follows follows 0).bind fun first => (log_follows _ _).bind fun _ => ?_
    exact (queryRound_follows follows first.count).bind fun second => inCommand_follows _
  · exact .throw e
  · exact .pure ()

theorem validate_follows (id : UInt32) :
    Follows (mapDevice f) (validate id) (validate id) := by
  refine current_follows.bind fun c => ?_
  split
  · exact (log_follows _ _).bind fun _ => inCommand_follows _
  · exact inCommand_follows _

theorem submit_follows (follows : backend.Follows f image) :
    Follows (mapDevice f) (submit backend) (submit image) := by
  refine current_follows.bind fun c => ?_
  rcases c.sendFault? with _ | e
  · refine (reporting_follows _ ?_).bind fun receipt => (inCommand_follows _).bind fun _ =>
      current_follows.bind fun sent => (log_follows _ _).bind fun _ => .pure _
    exact (inWorld_follows (follows.runSend c.device c.request)).bind fun _ => inCommand_follows _
  · exact .throw e

theorem prepare_follows (follows : backend.Follows f image) (id : UInt32) :
    Follows (mapDevice f) (prepare backend id) (prepare image id) :=
  (query_follows follows).bind fun _ => (validate_follows id).bind fun _ => inCommand_follows _

theorem prepareRaw_follows (follows : backend.Follows f image) (opcode : UInt16) :
    Follows (mapDevice f) (prepareRaw backend opcode) (prepareRaw image opcode) := by
  simp only [prepareRaw]
  split
  · exact .bind (.throw _) fun _ => (prepare_follows follows _).bind fun _ => inCommand_follows _
  · exact (prepare_follows follows _).bind fun _ => inCommand_follows _

theorem conclude_follows (follows : backend.Follows f image) :
    Follows (mapDevice f) (conclude backend) (conclude image) := by
  refine (submit_follows follows).bind fun status => ?_
  split
  · exact current_follows.bind fun _ => (log_follows _ _).bind fun _ => .except _
  · exact .except _

theorem run_follows (follows : backend.Follows f image) (input : Bytes) :
    Follows (mapDevice f) (run backend input) (run image input) := by
  rw [run_eq, run_eq]
  split
  · exact conclude_follows follows
  · exact (inCommand_follows _).bind fun _ => (inCommand_follows _).bind fun _ =>
      conclude_follows follows

theorem outputFor_follows (id : UInt32) :
    Follows (mapDevice f) (outputFor id) (outputFor id) :=
  current_follows.bind fun _ => .except _

theorem rawOutputFor_follows (opcode : UInt16) :
    Follows (mapDevice f) (rawOutputFor opcode) (rawOutputFor opcode) :=
  current_follows.bind fun _ => .except _

end Session

/-! ## Histories of operations, and whole commands -/

namespace Operation

open Effect Session

theorem perform_follows (follows : backend.Follows f image) (op : Operation) :
    Follows (mapDevice f) (op.perform backend) (op.perform image) := by
  cases op with
  | query => exact (query_follows follows).bind fun _ => .pure _
  | validate id => exact (validate_follows id).bind fun _ => .pure _
  | allocSend id => exact (inCommand_follows _).bind fun _ => .pure _
  | setInput buffer? size => exact (inCommand_follows _).bind fun _ => .pure _
  | setOutput buffer? size => exact (inCommand_follows _).bind fun _ => .pure _
  | writeInput data => exact (inCommand_follows _).bind fun _ => .pure _
  | submit => exact (submit_follows follows).bind fun _ => .pure _

end Operation

theorem Drive.once_follows {x : Drive δ α} {y : Drive ε α}
    (same : Effect.Follows (Session.mapDevice f) x y) (info : DeviceInfo) :
    Effect.Follows (World.mapDevice f) (x.once info) (y.once info) := by
  intro world
  have ran := same ⟨.unvalidated info, world⟩
  rw [Session.once_apply, Session.once_apply]
  exact congrArg (fun result => (result.1, result.2.world)) ran

end CxlMailbox
