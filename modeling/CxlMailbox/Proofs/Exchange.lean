/-
# CxlMailbox.Proofs.Exchange — what passes between a command and its backend

`Backend.recorded` is any backend with a record of its exchanges: each request as it was given and
what was answered to it.  It follows the backend it records (`Backend.recorded_follows`), so the
record says what happens over that backend itself: `Drive.exchanges` and `Task.exchanges` are the
exchanges of a run, and the run over the recorded backend answers as the run without a record
(`Effect.Follows.answer_recording`).

Catalog queries are made by `query` alone, one or two of them (`Session.query_exchanges`), and
sends by `submit` alone, at most one (`Session.submit_exchanges`).
-/
import CxlMailbox.Proofs.Simulation

namespace CxlMailbox

set_option autoImplicit false

/-- One request to a backend and the answer to it, with what the backend wrote into the buffer. -/
inductive Exchange where
  | query (device : DeviceInfo) (offered : QueryBuffer) (verdict : Except Error UInt32)
      (written : List CatalogEntry)
  | send (device : DeviceInfo) (request : SendRequest) (verdict : Except Error Receipt)
      (written : Bytes)

namespace Exchange

def isQuery : Exchange → Bool
  | query .. => true
  | send .. => false

def isSend : Exchange → Bool
  | query .. => false
  | send .. => true

end Exchange

/-- The state of a backend with its exchanges so far, in order. -/
structure Recorded (δ : Type) where
  device : δ
  exchanges : List Exchange := []

section Recording

variable {δ α : Type}

/-- The backend with a record of its exchanges. -/
def Backend.recorded (backend : Backend δ) : Backend (Recorded δ) where
  discover files state :=
    let found := backend.discover files state.device
    { found := found.found, device := { state with device := found.device }, log := found.log }
  query files info buffer state :=
    let reply := backend.query files info buffer state.device
    { verdict := reply.verdict, written := reply.written, log := reply.log
      device := ⟨reply.device,
        state.exchanges ++ [.query info buffer reply.verdict reply.written]⟩ }
  send files info request state :=
    let reply := backend.send files info request state.device
    { verdict := reply.verdict, written := reply.written, log := reply.log
      device := ⟨reply.device,
        state.exchanges ++ [.send info request reply.verdict reply.written]⟩ }

/-- Recording changes nothing. -/
theorem Backend.recorded_follows (backend : Backend δ) :
    backend.recorded.Follows Recorded.device backend where
  query _ _ _ _ := rfl
  send _ _ _ _ := rfl

/-- The world with an empty record. -/
def World.recording (world : World δ) : World (Recorded δ) :=
  world.mapDevice fun device => { device }

/-- The session with an empty record. -/
def Session.recording (s : Session δ) : Session (Recorded δ) :=
  s.mapDevice fun device => { device }

/-- The exchanges recorded so far. -/
def Session.exchanges (s : Session (Recorded δ)) : List Exchange := s.world.device.exchanges

/-- The exchanges of a drive, which starts with an empty record. -/
def Drive.exchanges (x : Drive (Recorded δ) α) (s : Session δ) : List Exchange :=
  (x s.recording).2.exchanges

/-- The exchanges of a task, which starts with an empty record. -/
def Task.exchanges {ε : Type} (x : Task (Recorded δ) ε α) (world : World δ) : List Exchange :=
  (x world.recording).2.device.exchanges

@[simp] theorem Session.recording_exchanges (s : Session δ) : s.recording.exchanges = [] := rfl

/-- A run over the recorded backend leaves the command that the run without a record leaves. -/
theorem Effect.Follows.answer_recording {x : Drive (Recorded δ) α} {y : Drive δ α}
    (follows : Effect.Follows (Session.mapDevice Recorded.device) x y) (s : Session δ) :
    (y s).1 = (x s.recording).1 ∧ (y s).2.command = (x s.recording).2.command := by
  have ran := follows s.recording
  rw [show s.recording.mapDevice Recorded.device = s from rfl] at ran
  rw [ran]
  exact ⟨rfl, rfl⟩

end Recording

/-! ## The exchanges of an operation -/

namespace Session

variable {δ : Type} (backend : Backend δ)

/-- A query that has to be made is one exchange if the first round fails, and else two, the
second with room for as many entries as the first reported. -/
theorem query_exchanges {s : Session (Recorded δ)}
    (unsettled : s.command.queryVerdict? = none) :
    (∃ e written,
      (query backend.recorded s).1 = .error e ∧
      (query backend.recorded s).2.exchanges =
        s.exchanges ++ [.query s.command.device (.withCapacity 0) (.error e) written]) ∨
    ∃ count written verdict written',
      (query backend.recorded s).1 = verdict.map (fun _ => ()) ∧
      (query backend.recorded s).2.exchanges =
        s.exchanges ++ [.query s.command.device (.withCapacity 0) (.ok count) written,
          .query s.command.device (.withCapacity count) verdict written'] := by
  let first := backend.query s.world.files s.command.device (.withCapacity 0) s.world.device.device
  rcases query_cases backend.recorded unsettled with
    ⟨e, log, failed, ran⟩ | ⟨count, counted, ⟨e, log, failed, ran⟩ | ⟨header, log, done, ran⟩⟩
  · exact .inl ⟨e, first.written, by rw [ran], by rw [ran, ← failed]; rfl⟩
  · let second := backend.query s.world.files s.command.device (.withCapacity count) first.device
    refine .inr ⟨count, first.written, .error e, second.written, by rw [ran]; rfl, ?_⟩
    rw [ran, ← counted, ← failed]
    exact List.append_assoc ..
  · let second := backend.query s.world.files s.command.device (.withCapacity count) first.device
    refine .inr ⟨count, first.written, .ok header, second.written, by rw [ran]; rfl, ?_⟩
    rw [ran, ← counted, ← done]
    exact List.append_assoc ..

/-- A send is refused without an exchange, or it is one exchange, and its verdict decides how the
session goes on. -/
theorem submit_exchanges (s : Session (Recorded δ)) :
    (∃ e, s.command.sendFault? = some e ∧ submit backend.recorded s = (.error e, s)) ∨
    s.command.sendFault? = none ∧ ∃ device log verdict written,
      let after := s.moved ⟨device, s.exchanges ++
        [.send s.command.device s.command.request verdict written]⟩ log
      let sent := s.command.withOutput (overlay written s.command.output.bytes)
      submit backend.recorded s = match verdict with
        | .error e => (.error e, after.withCommand sent)
        | .ok receipt => (.ok (Status.ofWord receipt.returnWord),
            after.withCommand (sent.completeSend receipt)) := by
  rcases fault : s.command.sendFault? with _ | e
  · obtain ⟨log, ran⟩ := submit_sends backend.recorded fault
    exact .inr ⟨rfl, _, log, _, _, ran⟩
  · exact .inl ⟨e, rfl, submit_refused fault⟩

end Session

/-- Only a query that has to be made queries, and only a submission that is not refused sends. -/
theorem Operation.perform_exchanges {δ : Type} (backend : Backend δ) (op : Operation)
    (s : Session (Recorded δ)) :
    ∃ new, (op.perform backend.recorded s).2.exchanges = s.exchanges ++ new ∧ ∀ exchange ∈ new,
      (exchange.isQuery = true ∧ op = .query ∧ s.command.queryVerdict? = none) ∨
      (exchange.isSend = true ∧ op = .submit ∧ s.command.sendFault? = none) := by
  have silent {t : Session (Recorded δ)} (same : t.exchanges = s.exchanges) :
      ∃ new, t.exchanges = s.exchanges ++ new ∧ ∀ exchange ∈ new,
        (exchange.isQuery = true ∧ op = .query ∧ s.command.queryVerdict? = none) ∨
        (exchange.isSend = true ∧ op = .submit ∧ s.command.sendFault? = none) :=
    ⟨[], by simp [same], by simp⟩
  cases op <;> simp only [perform, Effect.bind_pure_apply]
  case query =>
    rcases settled : s.command.queryVerdict? with _ | verdict
    · rcases Session.query_exchanges backend settled with
        ⟨e, written, -, made⟩ | ⟨count, written, verdict, written', -, made⟩ <;>
        exact ⟨_, made, by simp [Exchange.isQuery]⟩
    · rw [Session.query_settled settled]
      exact ⟨[], by simp, by simp⟩
  case validate id =>
    obtain ⟨log, ran⟩ := Session.validate_apply id s
    rw [ran]
    exact silent rfl
  case allocSend id => exact silent rfl
  case setInput buffer? size => exact silent rfl
  case setOutput buffer? size => exact silent rfl
  case writeInput data => exact silent rfl
  case submit =>
    rcases Session.submit_exchanges backend s with
      ⟨e, -, ran⟩ | ⟨clear, device, log, verdict, written, ran⟩
    · rw [ran]
      exact ⟨[], by simp, by simp⟩
    · rw [ran]
      refine ⟨[.send s.command.device s.command.request verdict written], ?_, ?_⟩
      · cases verdict <;> rfl
      · simp [Exchange.isSend, clear]

end CxlMailbox
