/-
# CxlMailbox.Proofs.Session — what the operations of a session do

This module opens the operations of a session once, so that no later proof unfolds them:

* `query_settled` and `query_fetches` say what a catalog query does, the second with both rounds
  and all their outcomes;
* `validate_apply`, `allocSend_apply` and their kin are the command's own functions, the world
  kept up to what was logged;
* `submit_refused` and `submit_sends` say what a send does;
* `run_eq` takes a run apart into its input and its end, `conclude`.

What was logged never matters to a proof, so every statement leaves it open (`∃ log`).
-/
import CxlMailbox.Proofs.Effect
import CxlMailbox.Session

namespace CxlMailbox

set_option autoImplicit false

namespace Session

open Effect

variable {δ α : Type}

/-! ## Sessions with one part replaced -/

/-- The session with the backend and the log moved on, the command kept. -/
def moved (s : Session δ) (device : δ) (log : Array LogLine) : Session δ :=
  { s with world := { s.world with device, log } }

@[simp] theorem moved_command (s : Session δ) (device : δ) (log : Array LogLine) :
    (s.moved device log).command = s.command := rfl

@[simp] theorem moved_device (s : Session δ) (device : δ) (log : Array LogLine) :
    (s.moved device log).world.device = device := rfl

@[simp] theorem moved_files (s : Session δ) (device : δ) (log : Array LogLine) :
    (s.moved device log).world.files = s.world.files := rfl

@[simp] theorem moved_moved (s : Session δ) (device device' : δ) (log log' : Array LogLine) :
    (s.moved device log).moved device' log' = s.moved device' log' := rfl

/-- The session with another command in the same world. -/
def withCommand (s : Session δ) (command : Command) : Session δ := { s with command }

@[simp] theorem withCommand_command (s : Session δ) (c : Command) :
    (s.withCommand c).command = c := rfl

@[simp] theorem withCommand_world (s : Session δ) (c : Command) :
    (s.withCommand c).world = s.world := rfl

/-! ## Effects -/

theorem current_apply (s : Session δ) : current s = (.ok s.command, s) := rfl

theorem inCommand_apply (step : Command → Except Error α × Command) (s : Session δ) :
    inCommand step s = ((step s.command).1, s.withCommand (step s.command).2) := rfl

theorem inWorld_apply (effect : StateM (World δ) α) (s : Session δ) :
    inWorld effect s = (.ok (effect s.world).1, { s with world := (effect s.world).2 }) := rfl

theorem log_apply (level : Level) (message : String) (s : Session δ) :
    log level message s =
      (.ok (), s.moved s.world.device (s.world.log.push ⟨level, message⟩)) := rfl

/-- Reporting a failure adds a line to the log and changes nothing else. -/
theorem reporting_apply (heading : String) (step : Drive δ α) (s : Session δ) :
    ∃ log, reporting heading step s =
      ((step s).1, (step s).2.moved (step s).2.world.device log) := by
  rw [reporting, tryCatch_apply]
  rcases step s with ⟨e | a, t⟩
  · exact ⟨_, rfl⟩
  · exact ⟨t.world.log, rfl⟩

/-! ## Catalog queries -/

theorem queryRound_apply (backend : Backend δ) (count : UInt32) (s : Session δ) :
    ∃ log, queryRound backend count s =
      let reply := backend.query s.world.files s.command.device (.withCapacity count)
        s.world.device
      (reply.verdict.map fun header => (QueryBuffer.withCapacity count).fill header reply.written,
        s.moved reply.device log) := by
  rw [queryRound, bind_ok (current_apply s)]
  refine Exists.imp (fun log reported => reported.trans ?_) (reporting_apply _ _ s)
  simp only [bind_apply, inWorld, Backend.runQuery]
  cases (backend.query s.world.files s.command.device (.withCapacity count)
    s.world.device).verdict <;> rfl

/-- A query whose verdict is known asks nobody and changes nothing. -/
theorem query_settled {backend : Backend δ} {s : Session δ} {verdict : Except Error Unit}
    (settled : s.command.queryVerdict? = some verdict) :
    query backend s = (verdict, s) := by
  rw [query, bind_ok (current_apply s), settled]
  cases verdict <;> rfl

/-- Any other query asks for the number of entries and then, if it got one, for so many. -/
theorem query_fetches (backend : Backend δ) {s : Session δ}
    (unsettled : s.command.queryVerdict? = none) :
    ∃ log, query backend s =
      let first := backend.query s.world.files s.command.device (.withCapacity 0) s.world.device
      match first.verdict with
      | .error e => (.error e, s.moved first.device log)
      | .ok count =>
        let second := backend.query s.world.files s.command.device (.withCapacity count)
          first.device
        match second.verdict with
        | .error e => (.error e, s.moved second.device log)
        | .ok header =>
          let buffer := (QueryBuffer.withCapacity count).fill header second.written
          (.ok (), (s.moved second.device log).withCommand
            (s.command.receiveCatalog buffer.reported)) := by
  rw [query, bind_ok (current_apply s), unsettled]
  obtain ⟨log₁, round₁⟩ := queryRound_apply backend 0 s
  generalize backend.query s.world.files s.command.device (.withCapacity 0) s.world.device = first
    at round₁ ⊢
  rcases verdict₁ : first.verdict with e | count <;>
    simp only [verdict₁, Except.map] at round₁ ⊢
  · exact ⟨log₁, bind_error round₁ _⟩
  · obtain ⟨log₂, round₂⟩ := queryRound_apply backend count (s.moved first.device
      (log₁.push ⟨.debug, s!"{s.command.device.name}: device supports {count} commands"⟩))
    simp only [moved_command, moved_files, moved_device, moved_moved] at round₂
    simp only [bind_ok round₁, bind_ok (log_apply _ _ _)]
    generalize backend.query s.world.files s.command.device (.withCapacity count) first.device =
      second at round₂ ⊢
    rcases verdict₂ : second.verdict with e | header <;>
      simp only [verdict₂, Except.map] at round₂ ⊢
    · exact ⟨log₂, bind_error round₂ _⟩
    · exact ⟨log₂, bind_ok round₂ _⟩

/-- The three ends of a query that has to be made: the first round fails, the second fails, or
the command gets the catalog that the second brought. -/
theorem query_cases (backend : Backend δ) {s : Session δ}
    (unsettled : s.command.queryVerdict? = none) :
    let first := backend.query s.world.files s.command.device (.withCapacity 0) s.world.device
    (∃ e log, first.verdict = .error e ∧ query backend s = (.error e, s.moved first.device log)) ∨
    ∃ count, first.verdict = .ok count ∧
      let second := backend.query s.world.files s.command.device (.withCapacity count) first.device
      let buffer header := (QueryBuffer.withCapacity count).fill header second.written
      (∃ e log, second.verdict = .error e ∧
        query backend s = (.error e, s.moved second.device log)) ∨
      ∃ header log, second.verdict = .ok header ∧
        query backend s = (.ok (), (s.moved second.device log).withCommand
          (s.command.receiveCatalog (buffer header).reported)) := by
  obtain ⟨log, ran⟩ := query_fetches backend unsettled
  intro first
  rcases verdict₁ : first.verdict with e | count
  · exact .inl ⟨e, log, rfl, by simpa only [first, verdict₁] using ran⟩
  · refine .inr ⟨count, rfl, ?_⟩
    intro second buffer
    rcases verdict₂ : second.verdict with e | header
    · exact .inl ⟨e, log, rfl, by simpa only [first, verdict₁, second, verdict₂] using ran⟩
    · exact .inr ⟨header, log, rfl, by simpa only [first, verdict₁, second, verdict₂] using ran⟩

/-! ## Steps of the command alone -/

theorem validate_apply (id : UInt32) (s : Session δ) :
    ∃ log, validate id s = ((s.command.validate id).1,
      (s.moved s.world.device log).withCommand (s.command.validate id).2) := by
  rw [validate, bind_ok (current_apply s)]
  split
  · exact ⟨_, rfl⟩
  · exact ⟨s.world.log, rfl⟩

theorem allocSend_apply (id : UInt32) (s : Session δ) :
    allocSend id s = ((s.command.allocSend id).1, s.withCommand (s.command.allocSend id).2) := rfl

theorem setInput_apply (buffer? : Option Bytes) (size : Int) (s : Session δ) :
    setInput buffer? size s =
      ((s.command.setInput buffer? size).1, s.withCommand (s.command.setInput buffer? size).2) :=
  rfl

theorem setOutput_apply (buffer? : Option Bytes) (size : Int) (s : Session δ) :
    setOutput buffer? size s =
      ((s.command.setOutput buffer? size).1, s.withCommand (s.command.setOutput buffer? size).2) :=
  rfl

theorem writeInput_apply (data : Bytes) (s : Session δ) :
    writeInput data s =
      ((s.command.writeInput data).1, s.withCommand (s.command.writeInput data).2) := rfl

/-! ## Sends -/

theorem submit_refused {backend : Backend δ} {s : Session δ} {e : Error}
    (fault : s.command.sendFault? = some e) : submit backend s = (.error e, s) := by
  rw [submit, bind_ok (current_apply s), fault]
  rfl

/-- A send that is not refused reaches the backend once; the command then has the output as the
backend left it and, if the send succeeded, what was reported. -/
theorem submit_sends (backend : Backend δ) {s : Session δ}
    (clear : s.command.sendFault? = none) :
    ∃ log, submit backend s =
      let reply := backend.send s.world.files s.command.device s.command.request s.world.device
      let sent := s.command.withOutput (overlay reply.written s.command.output.bytes)
      match reply.verdict with
      | .error e => (.error e, (s.moved reply.device log).withCommand sent)
      | .ok receipt => (.ok (Status.ofWord receipt.returnWord),
          (s.moved reply.device log).withCommand (sent.completeSend receipt)) := by
  rw [submit, bind_ok (current_apply s), clear]
  obtain ⟨log, sent⟩ := reporting_apply s!"{s.command.device.name}: {CommandId.name s.command.id}"
    (inWorld (backend.runSend s.command.device s.command.request) >>= fun reply =>
      inCommand fun c => (reply.1, c.withOutput reply.2)) s
  simp only [bind_apply, inWorld, Backend.runSend, inCommand_apply] at sent
  generalize backend.send s.world.files s.command.device s.command.request s.world.device = reply
    at sent ⊢
  rcases verdict : reply.verdict with e | receipt <;> simp only [verdict] at sent ⊢
  · exact ⟨log, bind_error sent _⟩
  · exact ⟨_, bind_ok sent _⟩

/-! ## Whole commands -/

theorem prepareRaw_apply (backend : Backend δ) {opcode : UInt16} (nonzero : opcode ≠ 0)
    (s : Session δ) :
    prepareRaw backend opcode s = match prepare backend CommandId.raw s with
      | (.ok (), t) => (.ok (), t.withCommand { t.command with rawOpcode := opcode })
      | (.error e, t) => (.error e, t) := by
  simp only [prepareRaw, nonzero, if_false]
  rw [bind_apply]
  rcases prepare backend CommandId.raw s with ⟨e | _, t⟩ <;> rfl

/-- What the making of a pass-through command keeps, and no opcode matters to, the making of a raw
command keeps. -/
theorem prepareRaw_keeps {backend : Backend δ} {P : Session δ → Prop}
    (prepared : Keeps P (prepare backend CommandId.raw))
    (any_opcode : ∀ s opcode, P s → P (s.withCommand { s.command with rawOpcode := opcode }))
    (opcode : UInt16) : Keeps P (prepareRaw backend opcode) := by
  intro s holds
  by_cases zero : opcode = 0
  · subst zero
    exact holds
  · have kept := prepared s holds
    rw [prepareRaw_apply backend zero]
    rcases ran : prepare backend CommandId.raw s with ⟨e | _, t⟩ <;> rw [ran] at kept
    · exact kept
    · exact any_opcode t opcode kept

/-- The second half of a run: the command is sent, and its status says how it ended. -/
def conclude (backend : Backend δ) : Drive δ Completion := do
  let status ← submit backend
  if status.isFailure then
    log .error s!"{(← current).device.name}: firmware status: {status.text}"
  status.completion

theorem run_eq (backend : Backend δ) (input : Bytes) :
    run backend input =
      if input.isEmpty then conclude backend
      else (do
        setInput none input.length
        let _ ← writeInput input
        conclude backend) := by
  cases empty : input.isEmpty <;> simp only [run, empty] <;> rfl

theorem conclude_apply (backend : Backend δ) (s : Session δ) :
    ∃ log, conclude backend s =
      let sent := submit backend s
      (sent.1.bind Status.completion, sent.2.moved sent.2.world.device log) := by
  rcases ran : submit backend s with ⟨e | status, t⟩
  · exact ⟨t.world.log, bind_error ran _⟩
  · rw [conclude, bind_ok ran]
    by_cases failure : status.isFailure = true
    · simp only [failure, if_true, bind_ok (current_apply t), bind_ok (log_apply _ _ t)]
      exact ⟨_, except_apply _ _⟩
    · simp only [failure]
      exact ⟨t.world.log, except_apply _ _⟩

/-- A command that is driven once answers as the drive does, and leaves its world. -/
theorem once_apply (drive : Drive δ α) (info : DeviceInfo) (world : World δ) :
    drive.once info world =
      ((drive ⟨.unvalidated info, world⟩).1, (drive ⟨.unvalidated info, world⟩).2.world) := by
  have driven : (liftM (drive.onDevice info) : Task δ Error (Except Error α × Command)) world =
      (.ok ((drive ⟨.unvalidated info, world⟩).1, (drive ⟨.unvalidated info, world⟩).2.command),
        (drive ⟨.unvalidated info, world⟩).2.world) := rfl
  rw [Drive.once, bind_ok driven]
  exact except_apply _ _

end Session

end CxlMailbox
